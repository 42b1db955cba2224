import PacketFeed.Log
import PacketFeed.Pattern.Reader

/-!
# Log filters

Which events a log shows.  A setting is a list of rules with commas between
them, perhaps with a slash and a pattern after them.  A rule says how far down
the log goes, for all targets or for those whose names start in a certain way.
Of the rules that speak of a target the one with the longest name decides, and
of equally long ones the last.  Only events whose text fits the pattern are
shown.

What cannot be understood in a setting is left out, with a warning.
-/

namespace PacketFeed.Log

/-- How far down a log goes. -/
inductive Limit where
  /-- Nothing is shown. -/
  | off
  /-- The events of a level, and those that are more urgent, are shown. -/
  | downTo (level : Level)
deriving DecidableEq, Repr

namespace Limit

/-- The name in a setting. -/
def name : Limit → String
  | .off => "OFF"
  | .downTo level => level.name

/-- All limits. -/
def all : List Limit :=
  [.off, .downTo .error, .downTo .warn, .downTo .info, .downTo .debug,
    .downTo .trace]

/-- The limit that a text names, in upper or lower case. -/
def ofText? (text : List Char) : Option Limit :=
  all.find? fun limit => limit.name.toList = text.map Char.toUpper

/-- Whether the log goes down to a level. -/
def reaches (limit : Limit) (level : Level) : Bool :=
  match limit with
  | .off => false
  | .downTo lowest => level.rank ≤ lowest.rank

end Limit

/-- How far down a log goes for some targets. -/
structure Rule where
  /-- How the names of the targets start; without it, all of them are meant. -/
  target : Option (List Char)
  limit : Limit
deriving DecidableEq, Repr

namespace Rule

/-- Whether a rule speaks of a target. -/
def covers (rule : Rule) (target : String) : Bool :=
  rule.target.all fun start => start.isPrefixOf target.toList

/-- The length of the name, for which a missing name counts as empty. -/
def length (rule : Rule) : Nat :=
  (rule.target.getD []).length

end Rule

/-- What can be wrong with a setting. -/
inductive Warning where
  /-- There are more slashes than one. -/
  | tooManySlashes (setting : List Char)
  /-- A rule ends in something that is no limit. -/
  | unknownLimit (text : List Char)
  /-- A rule has more equals signs than one. -/
  | unreadableRule (text : List Char)
  /-- The pattern is badly written. -/
  | unreadablePattern (text : List Char)
deriving DecidableEq, Repr

/-- The line that a warning prints. -/
def Warning.message : Warning → String
  | .tooManySlashes setting =>
      "warning: invalid logging spec '" ++ String.ofList setting ++
        "', ignoring it (too many '/'s)"
  | .unknownLimit text | .unreadableRule text =>
      "warning: invalid logging spec '" ++ String.ofList text ++
        "', ignoring it"
  | .unreadablePattern text =>
      "warning: invalid regex filter - " ++ String.ofList text

/--
Read a rule.  A limit alone holds for all targets, a name alone shows
everything of its targets.
-/
def Rule.ofText (text : List Char) : Except Warning Rule :=
  match Text.pieces '=' text with
  | [name] =>
      match Limit.ofText? name with
      | some limit => .ok ⟨none, limit⟩
      | none => .ok ⟨some name, .downTo .trace⟩
  | [name, limit] =>
      let limit := Text.trim limit
      if limit.isEmpty then
        .ok ⟨some name, .downTo .trace⟩
      else
        match Limit.ofText? limit with
        | some limit => .ok ⟨some name, limit⟩
        | none => .error (.unknownLimit limit)
  | _ => .error (.unreadableRule text)

/-- What a log shows. -/
structure Filter where
  rules : List Rule := []
  /-- What the text of an event has to fit. -/
  pattern : Option Pattern := none
deriving Repr

namespace Filter

/-- Add a rule, in the place of one for the same name if there is one. -/
def add (filter : Filter) (rule : Rule) : Filter :=
  if filter.rules.any (·.target = rule.target) then
    { filter with
      rules := filter.rules.map fun known =>
        if known.target = rule.target then rule else known }
  else
    { filter with rules := filter.rules ++ [rule] }

/-- Read rules one after the other. -/
def addTexts (filter : Filter) : List (List Char) → Filter × List Warning
  | [] => (filter, [])
  | text :: rest =>
      if text.isEmpty then
        filter.addTexts rest
      else
        match Rule.ofText text with
        | .ok rule => (filter.add rule).addTexts rest
        | .error warning =>
            let (filter, warnings) := filter.addTexts rest
            (filter, warning :: warnings)

/-- Read rules with commas between them. -/
def ofRules (text : List Char) : Filter × List Warning :=
  addTexts {} ((Text.pieces ',' text).map Text.trim)

/-- Read a setting. -/
def ofText (setting : String) : Filter × List Warning :=
  match Text.pieces '/' setting.toList with
  | [rules] => ofRules rules
  | [rules, text] =>
      let (filter, warnings) := ofRules rules
      match Pattern.ofText? (String.ofList text) with
      | some pattern => ({ filter with pattern := some pattern }, warnings)
      | none => (filter, warnings ++ [.unreadablePattern text])
  | _ => ({}, [.tooManySlashes setting.toList])

/-- Read a setting that may be missing. -/
def ofSetting (setting : Option String) : Filter × List Warning :=
  match setting with
  | some text => ofText text
  | none => ({}, [])

/-- The rule that decides about a target.  Without rules errors are shown. -/
def deciding? (filter : Filter) (target : String) : Option Rule :=
  if filter.rules.isEmpty then
    some ⟨none, .downTo .error⟩
  else
    filter.rules.foldl
      (fun decided rule =>
        if rule.covers target && decided.all (·.length ≤ rule.length) then
          some rule
        else
          decided)
      none

/-- Whether an event is shown, where `address` is that of its context. -/
def shows (filter : Filter) (address : String) (event : Event) : Bool :=
  (filter.deciding? event.target).any (·.limit.reaches event.level) &&
    filter.pattern.all (·.isFoundIn (event.messageWith address))

end Filter

/--
The events that a log with the given setting shows.  A pattern is looked for in
the whole text of an event, and so in the address of its context too.
-/
def shown (address : String) (setting : Option String)
    (events : List Event) : List Event :=
  events.filter ((Filter.ofSetting setting).1.shows address)

/-- What is wrong with the setting of a log. -/
def warnings (setting : Option String) : List Warning :=
  (Filter.ofSetting setting).2

end PacketFeed.Log
