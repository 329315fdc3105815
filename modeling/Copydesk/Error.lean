import Copydesk.Text.Basic

/-! What can go wrong: with the configuration or a rule, which ends the run, or with one file. -/

namespace Copydesk

inductive ConfigError
  | malformed (message : Text)
  | invalid (message : Text)
  | missingStyle (style searched : Text)
  | builtinCollision (style : Text)
  | filter (fragment message : Text)
  | blueprint (name message : Text)
  | io (message : Text)
  deriving DecidableEq, Repr

def quoted (t : Text) : Text := '\'' :: (t ++ ['\''])

def ConfigError.message : ConfigError → Text
  | malformed m => "Invalid configuration syntax: ".toList ++ m
  | invalid m => "Invalid configuration: ".toList ++ m
  | missingStyle style searched =>
    "style ".toList ++ quoted style ++ " does not exist on the styles path (".toList ++ searched
      ++ ")".toList
  | builtinCollision style => quoted style ++ " collides with the built-in style".toList
  | filter fragment m => "Invalid filter ".toList ++ quoted fragment ++ ": ".toList ++ m
  | blueprint name m => "Invalid blueprint ".toList ++ quoted name ++ ": ".toList ++ m
  | io m => "I/O error: ".toList ++ m

inductive RuleError
  | invalidDefinition (name message : Text)
  | invalidRegex (name message : Text)
  | duplicate (name : Text)
  deriving DecidableEq, Repr

def RuleError.message : RuleError → Text
  | invalidDefinition name m => "Invalid rule definition in ".toList ++ name ++ ": ".toList ++ m
  | invalidRegex name m => "Invalid regex pattern in ".toList ++ name ++ ": ".toList ++ m
  | duplicate name => "the rule ".toList ++ quoted name ++ " has already been added".toList

inductive LintError
  | malformed (file : Text) (line : Nat) (message : Text)
  | query (language message : Text)
  | render (tool message : Text)
  | missingTool (tool : Text)
  | notFound (file needle : Text)
  | selector (expr message : Text)
  | rule (e : RuleError)
  | config (e : ConfigError)
  | io (message : Text)
  deriving DecidableEq, Repr

def LintError.message : LintError → Text
  | malformed file line m =>
    "Parse error in ".toList ++ file ++ ":".toList ++ Text.ofNat line ++ ": ".toList ++ m
  | query language m => "Invalid tree-sitter query for ".toList ++ language ++ ": ".toList ++ m
  | render tool m => tool ++ " failed: ".toList ++ m
  | missingTool tool => tool ++ " not found on PATH; install it to lint this file type".toList
  | notFound file needle => quoted needle ++ " not found in ".toList ++ file
  | selector expr m => "Query ".toList ++ quoted expr ++ " failed: ".toList ++ m
  | rule e => "Rule error: ".toList ++ e.message
  | config e => "Configuration error: ".toList ++ e.message
  | io m => "I/O error: ".toList ++ m

inductive RunError
  | config (e : ConfigError)
  | rule (e : RuleError)
  | lint (e : LintError)
  | io (message : Text)
  deriving DecidableEq, Repr

def RunError.message : RunError → Text
  | config e => "Configuration error: ".toList ++ e.message
  | rule e => "Rule error: ".toList ++ e.message
  | lint e => e.message
  | io m => "I/O error: ".toList ++ m

end Copydesk
