import Handout.Data

/-!
# What is wrong with a configuration

An issue is a problem at a place. Checking goes on after one, so that every place with a problem is
reported: `Checked` is a value or the issues that stand in its way, and `Checked.both` keeps the
issues of both sides.
-/

namespace Handout

/-- One step to a place in a configuration. -/
inductive Step
  | field (name : String)
  | index (n : Int)
  deriving DecidableEq, Repr

/-- A section of the settings. -/
inductive Section
  | general
  | discovery
  | processing
  deriving DecidableEq, Repr

/-- The key of a section. -/
def Section.key : Section → String
  | .general => "general"
  | .discovery => "discovery"
  | .processing => "processing"

/-- The name of a section's shape in messages. -/
def Section.shape : Section → String
  | .general => "GeneralConfig"
  | .discovery => "DiscoveryConfig"
  | .processing => "ProcessingConfig"

/-- What is wrong at a place. -/
inductive Problem
  | notText
  /-- Bytes where a text is asked for, and they are none. -/
  | undecodable
  | notList
  | notSwitch
  /-- A text or a number where a switch is asked for, and it says neither on nor off. -/
  | unreadableSwitch
  | unknownField
  | keyNotText
  | notSection (s : Section)
  deriving DecidableEq, Repr

namespace Problem

/-- The word for a problem in reports. -/
def word : Problem → String
  | .notText => "string_type"
  | .undecodable => "string_unicode"
  | .notList => "list_type"
  | .notSwitch => "bool_type"
  | .unreadableSwitch => "bool_parsing"
  | .unknownField => "extra_forbidden"
  | .keyNotText => "invalid_key"
  | .notSection _ => "model_type"

/-- The message of a problem. -/
def message : Problem → String
  | .notText => "Input should be a valid string"
  | .undecodable => "Input should be a valid string, unable to parse raw data as a unicode string"
  | .notList => "Input should be a valid list"
  | .notSwitch => "Input should be a valid boolean"
  | .unreadableSwitch => "Input should be a valid boolean, unable to interpret input"
  | .unknownField => "Extra inputs are not permitted"
  | .keyNotText => "Keys should be strings"
  | .notSection s => "Input should be a valid dictionary or instance of " ++ s.shape

end Problem

/-- A problem at a place. -/
structure Issue where
  place : List Step
  problem : Problem
  deriving DecidableEq, Repr

/-- The text of a step. -/
def Step.text : Step → String
  | .field name => name
  | .index n => toString n

/-- An issue in one line: the place, and the message of its problem. -/
def Issue.text (i : Issue) : String :=
  ".".intercalate (i.place.map Step.text) ++ ": " ++ i.problem.message

/-- A value, or the issues that stand in its way. -/
abbrev Checked (α : Type) := Except (List Issue) α

namespace Checked

/-- Both of two checked values, or the issues of both. -/
def both {α β γ : Type} (f : α → β → γ) : Checked α → Checked β → Checked γ
  | .ok a, .ok b => .ok (f a b)
  | .ok _, .error js => .error js
  | .error is, .ok _ => .error is
  | .error is, .error js => .error (is ++ js)

/-- A value that stands if there are no issues. -/
def clear {α : Type} (issues : List Issue) (a : α) : Checked α :=
  if issues = [] then .ok a else .error issues

/-- All of a list of checked values, or all their issues. -/
def all {α : Type} : List (Checked α) → Checked (List α)
  | [] => .ok []
  | x :: xs => both List.cons x (all xs)

end Checked

end Handout
