import Copydesk.Proofs.Data.Written
import Copydesk.Proofs.Text.Line
import Copydesk.Report.JsonLines
import Mathlib

/-! The report for programs, read back. It falls into a line for each alert, one for each file that
could not be checked and a summary, and each line is JSON with the fields of its record, whatever
characters stand in the texts. -/

namespace Copydesk

open Data (Value)
open Data.Json (Fits nestingLimit newline_not_mem_write read_write_append)
open Data.Json.Reader (maxWord)

section Objects

variable {d : Nat} {v : Value}

/-- The fields of a record by name; some may be left out. -/
abbrev RecordFields := List (String × Option Value)

/-- The record is an object of these fields, those without a value left out. -/
structure HasFields (v : Value) (fs : RecordFields) : Prop where
  /-- No key comes twice. -/
  exists_table : ∃ ts, v = .table ts ∧ (ts.map (·.1)).Nodup
  field_eq : ∀ f ∈ fs, v.field? f.1 = f.2
  mem_keys : ∀ key, (v.field? key).isSome → ∃ f ∈ fs, f.1.toList = key

def present (fs : RecordFields) : List (String × Value) :=
  fs.filterMap fun f => f.2.map fun v => (f.1, v)

variable {fs : RecordFields}

theorem mem_of_mem_present {f : String × Value} (h : f ∈ present fs) : (f.1, some f.2) ∈ fs := by
  obtain ⟨g, hg, hf⟩ := List.mem_filterMap.mp h
  obtain ⟨v, hv, rfl⟩ := Option.map_eq_some_iff.mp hf
  rwa [← hv]

theorem keys_present_sublist (fs : RecordFields) :
    ((present fs).map (·.1)).Sublist (fs.map (·.1)) := by
  induction fs with
  | nil => exact .slnil
  | cons f fs ih =>
    obtain ⟨k, o⟩ := f
    cases o with
    | none => exact ih.cons k
    | some v => exact ih.cons_cons k

theorem field?_jsonObject_cons (k : String) (v : Value) (fields : List (String × Value))
    (key : Text) : (jsonObject ((k, v) :: fields)).field? key =
      if key = k.toList then some v else (jsonObject fields).field? key := by
  by_cases h : key = k.toList
  · subst h
    simp [jsonObject, Value.field?, Data.get?]
  · have hne : (key == k.toList) = false := beq_eq_false_iff_ne.mpr h
    rw [if_neg h]
    simp [jsonObject, Value.field?, Data.get?, List.lookup_cons, hne]

theorem mem_of_field?_jsonObject {fields : List (String × Value)} {key : Text}
    (h : (jsonObject fields).field? key = some v) : ∃ f ∈ fields, f.1.toList = key ∧ f.2 = v := by
  induction fields with
  | nil => cases h
  | cons f fields ih =>
    obtain ⟨k, w⟩ := f
    rw [field?_jsonObject_cons] at h
    split at h
    · rename_i hkey
      exact ⟨(k, w), List.mem_cons_self, hkey.symm, Option.some.inj h⟩
    · obtain ⟨f, hf, hv⟩ := ih h
      exact ⟨f, List.mem_cons_of_mem _ hf, hv⟩

theorem keys_jsonObject_nodup {fields : List (String × Value)} (h : (fields.map (·.1)).Nodup) :
    ((fields.map fun f => (f.1.toList, f.2)).map (·.1)).Nodup := by
  have hmap : (fields.map fun f => (f.1.toList, f.2)).map (·.1) =
      (fields.map (·.1)).map String.toList := by
    rw [List.map_map, List.map_map]
    rfl
  rw [hmap]
  exact h.map fun _ _ => String.toList_inj.mp

theorem field?_present_of_not_mem {k : String} (h : k ∉ fs.map (·.1)) :
    (jsonObject (present fs)).field? k = none := by
  refine Option.eq_none_iff_forall_ne_some.mpr fun v hv => h ?_
  obtain ⟨f, hf, hkey, -⟩ := mem_of_field?_jsonObject hv
  exact String.toList_inj.mp hkey ▸ List.mem_map_of_mem (mem_of_mem_present hf)

theorem field?_present (hkeys : (fs.map (·.1)).Nodup) {f : String × Option Value} (hf : f ∈ fs) :
    (jsonObject (present fs)).field? f.1 = f.2 := by
  induction fs with
  | nil => cases hf
  | cons g fs ih =>
    obtain ⟨k, o⟩ := g
    rw [List.map_cons, List.nodup_cons] at hkeys
    have hcons : (jsonObject (present ((k, o) :: fs))).field? f.1 =
        if f.1 = k then o else (jsonObject (present fs)).field? f.1 := by
      cases o with
      | none =>
        have hpresent : present ((k, none) :: fs) = present fs := rfl
        by_cases h : f.1 = k
        · rw [if_pos h, h, hpresent]
          exact field?_present_of_not_mem hkeys.1
        · rw [if_neg h, hpresent]
      | some v =>
        have hpresent : present ((k, some v) :: fs) = (k, v) :: present fs := rfl
        simp only [hpresent, field?_jsonObject_cons, String.toList_inj]
    rw [hcons]
    rcases List.mem_cons.mp hf with rfl | hf
    · exact if_pos rfl
    · have hmem : f.1 ∈ fs.map (·.1) := List.mem_map_of_mem hf
      rw [if_neg fun h : f.1 = k => hkeys.1 (h ▸ hmem)]
      exact ih hkeys.2 hf

theorem hasFields_present (hkeys : (fs.map (·.1)).Nodup) :
    HasFields (jsonObject (present fs)) fs where
  exists_table := ⟨_, rfl, keys_jsonObject_nodup (hkeys.sublist (keys_present_sublist fs))⟩
  field_eq _ hf := field?_present hkeys hf
  mem_keys key h := by
    obtain ⟨v, hv⟩ := Option.isSome_iff_exists.mp h
    obtain ⟨f, hf, hkey, -⟩ := mem_of_field?_jsonObject hv
    exact ⟨_, mem_of_mem_present hf, hkey⟩

theorem fits_present (hkeys : (fs.map (·.1)).Nodup) (h : ∀ f ∈ fs, ∀ v ∈ f.2, Fits d v) :
    Fits (d + 1) (jsonObject (present fs)) := by
  refine .table (keys_jsonObject_nodup (hkeys.sublist (keys_present_sublist fs))) fun f hf => ?_
  obtain ⟨g, hg, rfl⟩ := List.mem_map.mp hf
  exact h _ (mem_of_mem_present hg) g.2 rfl

end Objects

section Lines

def record? (line : Text) : Option Value := (Data.Json.read line).toOption

def text? (line : Text) (key : String) : Option Text :=
  match (record? line).bind (Value.field? · key) with
  | some (.str t) => some t
  | _ => none

/-- The line is full and holds a record of these fields. -/
def IsRecord (line : Text) (fs : RecordFields) : Prop :=
  Text.IsFullLine line ∧ ∃ v, record? line = some v ∧ HasFields v fs

theorem text?_eq_of_isRecord {line : Text} {fs : RecordFields} (h : IsRecord line fs) {key : String}
    {t : Text} (hf : (key, some (.str t)) ∈ fs) : text? line key = some t := by
  obtain ⟨-, v, hv, hfields⟩ := h
  have hkey : v.field? key = some (.str t) := hfields.field_eq _ hf
  rw [text?, hv, Option.bind_some, hkey]

def recordLine (v : Value) : Text := Data.Json.write v ++ ['\n']

theorem record?_recordLine {v : Value} (h : Fits nestingLimit v) :
    record? (recordLine v) = some v := by
  have hblank : ∀ c ∈ ['\n'], Data.Json.Reader.isBlank c = true :=
    List.forall_mem_singleton.mpr (by decide)
  rw [record?, recordLine, read_write_append h hblank]
  rfl

theorem isFullLine_recordLine {v : Value} (h : Fits nestingLimit v) :
    Text.IsFullLine (recordLine v) :=
  ⟨_, newline_not_mem_write h, rfl⟩

theorem linesInclusive_jsonLines {vs : List Value} (h : ∀ v ∈ vs, Fits nestingLimit v) :
    Text.linesInclusive (jsonLines vs) = vs.map recordLine := by
  have hfull : ∀ l ∈ vs.map recordLine, Text.IsFullLine l :=
    List.forall_mem_map.mpr fun v hv => isFullLine_recordLine (h v hv)
  have htext : jsonLines vs = (vs.map recordLine).flatten ++ [] := by
    rw [List.append_nil, jsonLines, List.flatMap_def]
    rfl
  rw [htext, Text.linesInclusive_flatten_append hfull]
  exact List.append_nil _

end Lines

theorem Level.name_inj {a b : Level} : a.name = b.name ↔ a = b := by
  refine ⟨fun h => ?_, congrArg name⟩
  have hread := ofText_name a
  rw [h, ofText_name] at hread
  exact (Except.ok.inj hread).symm

namespace Report

/-- What a report says of an alert. -/
def alertFields (path : Text) (a : Alert) : RecordFields :=
  [("type", some (.str "alert")), ("file", some (.str path)), ("check", some (.str a.check)),
    ("level", some (.str a.level.name)), ("message", some (.str a.message)),
    ("description", if a.description = [] then none else some (.str a.description)),
    ("link", if a.link = [] then none else some (.str a.link)), ("line", some (jsonNat a.line)),
    ("span", some (.list [jsonNat a.span.start, jsonNat a.span.stop])),
    ("match", some (.str a.matched))]

/-- What it says of a file that could not be checked. -/
def failureFields (path : Text) (e : LintError) : RecordFields :=
  [("type", some (.str "error")), ("file", some (.str path)), ("message", some (.str e.message))]

def alertLines (lines : List Text) (l : Level) : List Text :=
  lines.filter fun line => text? line "type" = some "alert".toList ∧ text? line "level" = some l.name

def errorLines (lines : List Text) : List Text :=
  lines.filter fun line => text? line "type" = some "error".toList

/-- What the last line says, which counts the others. -/
def summaryFields (r : Report) (lines : List Text) : RecordFields :=
  [("type", some (.str "summary")), ("files", some (jsonNat r.files.length)),
    ("rules", some (jsonNat r.ruleCount)),
    ("errors", some (jsonNat (alertLines lines .error).length)),
    ("warnings", some (jsonNat (alertLines lines .warning).length)),
    ("suggestions", some (jsonNat (alertLines lines .suggestion).length)),
    ("failures", some (jsonNat (errorLines lines).length))]

/-- Every number is one of a machine word. -/
structure IsWordSized (r : Report) : Prop where
  files_le : r.files.length ≤ maxWord
  ruleCount_le : r.ruleCount ≤ maxWord
  /-- The alerts of all files together. -/
  alerts_le : (r.files.map fun f => (f.outcome.toOption.getD []).length).sum ≤ maxWord
  place_le : ∀ f ∈ r.files, ∀ as, f.outcome = .ok as → ∀ a ∈ as,
    a.line ≤ maxWord ∧ a.span.start ≤ maxWord ∧ a.span.stop ≤ maxWord

/-- One line for each alert on the files that were checked, in their order. -/
inductive ListsAlerts : List FileResult → List Text → Prop
  | nil : ListsAlerts [] []
  | checked {path : Text} {as : List Alert} {fs : List FileResult} {lines more : List Text}
    (has : List.Forall₂ (fun a line => IsRecord line (alertFields path a)) as lines)
    (hmore : ListsAlerts fs more) : ListsAlerts (⟨path, .ok as⟩ :: fs) (lines ++ more)
  | failed {path : Text} {e : LintError} {fs : List FileResult} {lines : List Text}
    (hlines : ListsAlerts fs lines) : ListsAlerts (⟨path, .error e⟩ :: fs) lines

/-- One line for each file that could not be checked. -/
inductive ListsFailures : List FileResult → List Text → Prop
  | nil : ListsFailures [] []
  | checked {path : Text} {as : List Alert} {fs : List FileResult} {lines : List Text}
    (hlines : ListsFailures fs lines) : ListsFailures (⟨path, .ok as⟩ :: fs) lines
  | failed {path : Text} {e : LintError} {fs : List FileResult} {line : Text} {more : List Text}
    (hline : IsRecord line (failureFields path e)) (hmore : ListsFailures fs more) :
    ListsFailures (⟨path, .error e⟩ :: fs) (line :: more)

theorem alertRecord_eq (path : Text) (a : Alert) :
    alertRecord path a = jsonObject (present (alertFields path a)) := by
  rw [alertRecord, Alert.jsonFields, alertFields]
  cases a.description <;> cases a.link <;> rfl

theorem failureRecord_eq (path : Text) (e : LintError) :
    failureRecord path e = jsonObject (present (failureFields path e)) := rfl

theorem alertFields_nodup (path : Text) (a : Alert) : ((alertFields path a).map (·.1)).Nodup := by
  simp [alertFields]

theorem failureFields_nodup (path : Text) (e : LintError) :
    ((failureFields path e).map (·.1)).Nodup := by
  simp [failureFields]

theorem fits_alertRecord (path : Text) {a : Alert} (hline : a.line ≤ maxWord)
    (hstart : a.span.start ≤ maxWord) (hstop : a.span.stop ≤ maxWord) :
    Fits nestingLimit (alertRecord path a) := by
  have hspan : Fits 126 (.list [jsonNat a.span.start, jsonNat a.span.stop]) := by
    refine .list ?_
    simp only [List.forall_mem_cons]
    exact ⟨.nat hstart, .nat hstop, nofun⟩
  have hoptional (t : Text) (v : Value) (hv : (if t = [] then none else some (.str t)) = some v) :
      Fits 126 v := by
    split at hv
    · cases hv
    · exact Option.some.inj hv ▸ .str _
  rw [alertRecord_eq]
  refine fits_present (alertFields_nodup path a) ?_
  simp only [alertFields, List.forall_mem_cons, Option.mem_def, Option.some.injEq, forall_eq']
  exact ⟨.str _, .str _, .str _, .str _, .str _, hoptional _, hoptional _, .nat hline, hspan,
    .str _, nofun⟩

theorem fits_failureRecord (path : Text) (e : LintError) :
    Fits nestingLimit (failureRecord path e) := by
  rw [failureRecord_eq]
  refine fits_present (failureFields_nodup path e) ?_
  simp only [failureFields, List.forall_mem_cons, Option.mem_def, Option.some.injEq, forall_eq']
  exact ⟨.str _, .str _, .str _, nofun⟩

variable {r : Report}

theorem length_failures_le (r : Report) : r.failures.length ≤ r.files.length :=
  List.length_filterMap_le _ _

theorem length_alerts (r : Report) : r.alerts.length =
    (r.files.map fun f => (f.outcome.toOption.getD []).length).sum := by
  rw [alerts, List.length_flatMap]
  refine congrArg List.sum (List.map_congr_left fun f _ => ?_)
  rw [List.length_map, FileResult.alerts]
  cases f.outcome <;> rfl

theorem IsWordSized.place_le_of_mem (h : r.IsWordSized) {x : Text × Alert} (hx : x ∈ r.alerts) :
    x.2.line ≤ maxWord ∧ x.2.span.start ≤ maxWord ∧ x.2.span.stop ≤ maxWord := by
  obtain ⟨f, hf, hx⟩ := List.mem_flatMap.mp hx
  obtain ⟨a, ha, rfl⟩ := List.mem_map.mp hx
  unfold FileResult.alerts at ha
  split at ha
  · rename_i as has
    exact h.place_le f hf as has a ha
  · cases ha

theorem fits_summaryRecord (h : r.IsWordSized) : Fits nestingLimit r.summaryRecord := by
  have hcount (l : Level) : r.count l ≤ maxWord := by
    refine List.countP_le_length.trans ?_
    rw [length_alerts]
    exact h.alerts_le
  have hfailures : r.failures.length ≤ maxWord := r.length_failures_le.trans h.files_le
  refine .table (by simp) ?_
  simp only [List.map_cons, List.map_nil, List.forall_mem_cons]
  exact ⟨.str _, .nat h.files_le, .nat h.ruleCount_le, .nat (hcount _), .nat (hcount _),
    .nat (hcount _), .nat hfailures, nofun⟩

theorem isRecord_recordLine {fs : RecordFields} (hkeys : (fs.map (·.1)).Nodup)
    (h : Fits nestingLimit (jsonObject (present fs))) :
    IsRecord (recordLine (jsonObject (present fs))) fs :=
  ⟨isFullLine_recordLine h, _, record?_recordLine h, hasFields_present hkeys⟩

theorem isRecord_alert (h : r.IsWordSized) {x : Text × Alert} (hx : x ∈ r.alerts) :
    IsRecord (recordLine (alertRecord x.1 x.2)) (alertFields x.1 x.2) := by
  obtain ⟨hline, hstart, hstop⟩ := h.place_le_of_mem hx
  have hfits := fits_alertRecord x.1 hline hstart hstop
  rw [alertRecord_eq] at hfits ⊢
  exact isRecord_recordLine (alertFields_nodup x.1 x.2) hfits

theorem isRecord_failure (x : Text × LintError) :
    IsRecord (recordLine (failureRecord x.1 x.2)) (failureFields x.1 x.2) :=
  isRecord_recordLine (failureFields_nodup x.1 x.2) (fits_failureRecord x.1 x.2)

def alertPart (r : Report) : List Text := r.alerts.map fun x => recordLine (alertRecord x.1 x.2)

def failurePart (r : Report) : List Text :=
  r.failures.map fun x => recordLine (failureRecord x.1 x.2)

section Files

variable {fs : List FileResult} {rules : Nat}

theorem alerts_cons (f : FileResult) (fs : List FileResult) (rules : Nat) :
    (mk (f :: fs) rules).alerts = f.alerts.map (fun a => (f.path, a)) ++ (mk fs rules).alerts :=
  List.flatMap_cons

theorem listsAlerts (h : ∀ x ∈ (mk fs rules).alerts,
    IsRecord (recordLine (alertRecord x.1 x.2)) (alertFields x.1 x.2)) :
    ListsAlerts fs (mk fs rules).alertPart := by
  induction fs with
  | nil => exact .nil
  | cons f fs ih =>
    rw [alerts_cons] at h
    obtain ⟨hfile, hmore⟩ := List.forall_mem_append.mp h
    obtain ⟨path, outcome⟩ := f
    cases outcome with
    | ok as =>
      rw [alertPart, alerts_cons, List.map_append, List.map_map]
      refine .checked (List.forall₂_map_right_iff.mpr (List.forall₂_same.mpr fun a ha => ?_))
        (ih hmore)
      exact hfile (path, a) (List.mem_map_of_mem ha)
    | error e => exact .failed (ih hmore)

theorem listsFailures (fs : List FileResult) (rules : Nat) :
    ListsFailures fs (mk fs rules).failurePart := by
  induction fs with
  | nil => exact .nil
  | cons f fs ih =>
    obtain ⟨path, outcome⟩ := f
    cases outcome with
    | ok as => exact .checked ih
    | error e => exact .failed (isRecord_failure (path, e)) ih

end Files

theorem linesInclusive_toJsonLines (h : r.IsWordSized) : Text.linesInclusive r.toJsonLines =
    r.alertPart ++ r.failurePart ++ [recordLine r.summaryRecord] := by
  have halerts : ∀ v ∈ r.alerts.map fun x => alertRecord x.1 x.2, Fits nestingLimit v := by
    refine List.forall_mem_map.mpr fun x hx => ?_
    obtain ⟨hline, hstart, hstop⟩ := h.place_le_of_mem hx
    exact fits_alertRecord x.1 hline hstart hstop
  have hfailures : ∀ v ∈ r.failures.map fun x => failureRecord x.1 x.2, Fits nestingLimit v :=
    List.forall_mem_map.mpr fun x _ => fits_failureRecord x.1 x.2
  rw [toJsonLines, linesInclusive_jsonLines]
  · simp only [List.map_append, List.map_map, List.map_cons, List.map_nil]
    rfl
  · simp only [List.forall_mem_append, List.forall_mem_singleton]
    exact ⟨⟨halerts, hfailures⟩, fits_summaryRecord h⟩

section Counts

theorem type_alert (h : r.IsWordSized) {x : Text × Alert} (hx : x ∈ r.alerts) :
    text? (recordLine (alertRecord x.1 x.2)) "type" = some "alert".toList :=
  text?_eq_of_isRecord (isRecord_alert h hx) (by simp [alertFields])

theorem level_alert (h : r.IsWordSized) {x : Text × Alert} (hx : x ∈ r.alerts) :
    text? (recordLine (alertRecord x.1 x.2)) "level" = some x.2.level.name :=
  text?_eq_of_isRecord (isRecord_alert h hx) (by simp [alertFields])

theorem type_failure (x : Text × LintError) :
    text? (recordLine (failureRecord x.1 x.2)) "type" = some "error".toList :=
  text?_eq_of_isRecord (isRecord_failure x) (by simp [failureFields])

theorem type_summary (h : r.IsWordSized) :
    text? (recordLine r.summaryRecord) "type" = some "summary".toList := by
  rw [text?, record?_recordLine (fits_summaryRecord h)]
  rfl

variable {l : Level}

theorem alertLines_eq_nil {lines : List Text}
    (h : ∀ line ∈ lines, text? line "type" ≠ some "alert".toList) : alertLines lines l = [] :=
  List.filter_eq_nil_iff.mpr fun line hline hkind => h line hline (of_decide_eq_true hkind).1

theorem length_alertLines (h : r.IsWordSized) (l : Level) :
    (alertLines (r.alertPart ++ r.failurePart ++ [recordLine r.summaryRecord]) l).length =
      r.count l := by
  have hfailures : alertLines r.failurePart l = [] := by
    refine alertLines_eq_nil (List.forall_mem_map.mpr fun x _ => ?_)
    rw [type_failure]
    decide
  have hsummary : alertLines [recordLine r.summaryRecord] l = [] := by
    refine alertLines_eq_nil (List.forall_mem_singleton.mpr ?_)
    rw [type_summary h]
    decide
  have halerts : (alertLines r.alertPart l).length = r.count l := by
    rw [alertLines, alertPart, ← List.countP_eq_length_filter, List.countP_map, count]
    refine List.countP_congr fun x hx => ?_
    simp [type_alert h hx, level_alert h hx, Level.name_inj]
  rw [alertLines, List.filter_append, List.filter_append, ← alertLines, ← alertLines, ← alertLines,
    hfailures, hsummary, List.append_nil, List.append_nil, halerts]

theorem length_errorLines (h : r.IsWordSized) :
    (errorLines (r.alertPart ++ r.failurePart ++ [recordLine r.summaryRecord])).length =
      r.failures.length := by
  have halerts : errorLines r.alertPart = [] := by
    refine List.filter_eq_nil_iff.mpr (List.forall_mem_map.mpr fun x hx => ?_)
    rw [type_alert h hx]
    decide
  have hfailures : errorLines r.failurePart = r.failurePart := by
    refine List.filter_eq_self.mpr (List.forall_mem_map.mpr fun x _ => ?_)
    rw [type_failure]
    decide
  have hsummary : errorLines [recordLine r.summaryRecord] = [] := by
    refine List.filter_eq_nil_iff.mpr (List.forall_mem_singleton.mpr ?_)
    rw [type_summary h]
    decide
  rw [errorLines, List.filter_append, List.filter_append, ← errorLines, ← errorLines, ← errorLines,
    halerts, hfailures, hsummary, List.nil_append, List.append_nil, failurePart, List.length_map]

end Counts

/-- The lines are those of the alerts, of the failures and of a summary that counts them. -/
structure IsRecordStream (r : Report) (as fs : List Text) (summary : Text) : Prop where
  alerts : ListsAlerts r.files as
  failures : ListsFailures r.files fs
  summary : IsRecord summary (r.summaryFields (as ++ fs ++ [summary]))

theorem isRecord_summary (h : r.IsWordSized) : IsRecord (recordLine r.summaryRecord)
    (r.summaryFields (r.alertPart ++ r.failurePart ++ [recordLine r.summaryRecord])) := by
  have hfits := fits_summaryRecord h
  have hrecord : r.summaryRecord = jsonObject (present (r.summaryFields
      (r.alertPart ++ r.failurePart ++ [recordLine r.summaryRecord]))) := by
    simp only [summaryFields, length_alertLines h, length_errorLines h]
    rfl
  have hkeys : ((r.summaryFields
      (r.alertPart ++ r.failurePart ++ [recordLine r.summaryRecord])).map (·.1)).Nodup := by
    simp [summaryFields]
  rw [hrecord] at hfits
  have hline := isRecord_recordLine hkeys hfits
  rwa [← hrecord] at hline

/-- The output is a faithful stream of records: one line for each alert in the order of the files and
then of their alerts, one for each file that failed, and a summary that agrees with the lines. -/
theorem exists_isRecordStream (r : Report) (h : r.IsWordSized) : ∃ as fs summary,
    Text.linesInclusive r.toJsonLines = as ++ fs ++ [summary] ∧ r.IsRecordStream as fs summary :=
  ⟨r.alertPart, r.failurePart, recordLine r.summaryRecord, linesInclusive_toJsonLines h,
    listsAlerts fun _ hx => isRecord_alert h hx, listsFailures r.files r.ruleCount,
    isRecord_summary h⟩

/-- Quotes, backslashes, newlines and control characters in every text, and a file that fails. -/
def oddReport : Report where
  files := [⟨"a\n\"b\".md", .ok
      [⟨"House.Bad", .error, "Avoid '\\\n'.", "\t\u0001", [], 2, ⟨3, 5⟩, "\"\\\n\u001f\u00e9"⟩]⟩,
    ⟨"b\r.rst", .error (.missingTool "rst2html")⟩]
  ruleCount := 1

def oddLines : List Text :=
  ["\x7b\"type\":\"alert\",\"file\":\"a\\n\\\"b\\\".md\",\"check\":\"House.Bad\",\"level\":\"error\"," ++
      "\"message\":\"Avoid '\\\\\\n'.\",\"description\":\"\\t\\u0001\",\"line\":2,\"span\":[3,5]," ++
      "\"match\":\"\\\"\\\\\\n\\u001f\u00e9\"\x7d\n",
    "\x7b\"type\":\"error\",\"file\":\"b\\r.rst\"," ++
      "\"message\":\"rst2html not found on PATH; install it to lint this file type\"\x7d\n",
    "\x7b\"type\":\"summary\",\"files\":2,\"rules\":1,\"errors\":1,\"warnings\":0,\"suggestions\":0," ++
      "\"failures\":1\x7d\n"]

theorem exists_isRecordStream_oddReport : oddReport.IsWordSized ∧
    Text.linesInclusive oddReport.toJsonLines = oddLines ∧ ∃ as fs summary,
      Text.linesInclusive oddReport.toJsonLines = as ++ fs ++ [summary] ∧
        oddReport.IsRecordStream as fs summary := by
  have hplaces : ∀ f ∈ oddReport.files, ∀ as, f.outcome = .ok as → ∀ a ∈ as,
      a.line ≤ maxWord ∧ a.span.start ≤ maxWord ∧ a.span.stop ≤ maxWord := by
    refine List.forall_mem_cons.mpr ⟨?_, List.forall_mem_singleton.mpr nofun⟩
    rintro _ ⟨⟩
    exact List.forall_mem_singleton.mpr (by decide)
  have hsized : oddReport.IsWordSized := ⟨by decide, by decide, by decide, hplaces⟩
  exact ⟨hsized, by decide +kernel, exists_isRecordStream oddReport hsized⟩

end Report

end Copydesk
