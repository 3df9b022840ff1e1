import SpaceGateway.Log.Rule
/-!
Which log entries are let through. A filter is given as a list of rules, separated by commas. Of
the rules that fit an entry the one with the longest target decides, and an entry that no rule fits
is dropped.
-/
namespace SpaceGateway.Log

abbrev Filter := List Rule

namespace Filter

/-- Of two rules, the one that decides. -/
def stronger (best : Option Rule) (r : Rule) : Option Rule :=
  match best with
  | none => some r
  | some b => if b.givesWay r then some r else some b

/-- The rule that decides about an entry. -/
def rule? (f : Filter) (e : Entry) : Option Rule := (f.filter (Rule.fits e)).foldl stronger none

def admits (f : Filter) (e : Entry) : Bool :=
  (f.rule? e).any fun r => Limit.admits r.limit e.level

/-- Reads a filter. Empty rules are skipped; without any rule only errors are let through. -/
def ofText? (s : String) : Option Filter := do
  let rules ← ((s.toList.splitOn ',').filter (!·.isEmpty)).mapM Rule.ofText?
  return if rules.isEmpty then [{ limit := some .error }] else rules

/-- The filter of a setting. If there is none, or it cannot be read, a level is chosen. -/
def choose (setting : Option String) (verbose : Bool) : Filter :=
  (setting.bind ofText?).getD [{ limit := some (if verbose then .debug else .info) }]

end Filter

/-- Tries to install a filter for the whole process, and tells whether it did. Only the first one
is installed. -/
def install (installed : Option Filter) (setting : Option String) (verbose : Bool) :
    Bool × Option Filter :=
  match installed with
  | some f => (false, some f)
  | none => (true, some (.choose setting verbose))

/-- The lines that are written of some entries. Without a filter nothing is. -/
def lines (installed : Option Filter) (entries : List Entry) : List String :=
  match installed with
  | none => []
  | some f => (entries.filter f.admits).map Entry.line

end SpaceGateway.Log
