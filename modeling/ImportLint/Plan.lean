import ImportLint.Analysis
import ImportLint.Config
import ImportLint.Options.Basic

/-!
# What is to be analyzed

Configuration and options together say which files are wanted. Some of the options may lack their
values. A missing extension is always an error. A missing pattern is one only if it is ever asked:
patterns are tried in order up to the first that matches, so all depends on whether those before the
gap settle every question. If they do, they give the same selection by themselves.
-/

namespace ImportLint

/-- The patterns and extensions that configuration and options ask for together. -/
structure Plan where
  included : List (Option Text)
  excluded : List (Option Text)
  extensions : List (Option Text)
  deriving DecidableEq, Repr

structure Scope where
  included : List Text
  excluded : List Text
  extensions : List Text
  deriving DecidableEq, Repr

def Scope.selection (scope : Scope) : Selection :=
  Selection.ofPatterns scope.included scope.excluded (wantedExtensions scope.extensions)

namespace Plan

def of (config : Config) (options : Options) : Plan where
  included := (config.included.getD []).map some ++ options.included
  excluded := (config.excluded.getD []).map some ++ options.excluded
  -- Unlike patterns, extensions of the options replace those of the configuration.
  extensions :=
    if options.extensions.isEmpty then (config.extensions.getD []).map some
    else options.extensions

def hasGap (values : List (Option Text)) : Bool := values.any Option.isNone

/-- The values before the first that is missing. -/
def beforeGap : List (Option Text) → List Text
  | some value :: rest => value :: beforeGap rest
  | _ => []

def scope (plan : Plan) : Scope where
  included := beforeGap plan.included
  excluded := beforeGap plan.excluded
  extensions := beforeGap plan.extensions

/-- Whether a missing exclusion is asked below `root`: the exclusions before it let something in the
directory pass. If they let nothing pass there, nothing below it is ever looked at. -/
def asksExclusion (plan : Plan) (tree : Node) (root : Path) : Bool :=
  hasGap plan.excluded && tree.holdsAny root { plan.scope with included := [] }.selection

/-- Whether a missing inclusion is asked below `root`: the inclusions before it do not match some
file that is wanted otherwise. -/
def asksInclusion (plan : Plan) (tree : Node) (root : Path) : Bool :=
  hasGap plan.included &&
    (tree.collect root { plan.scope with included := [] }.selection).any fun file =>
      !Glob.anyAccepts (plan.scope.included.map Glob.ofText) file.relative

/-- The scope in which the directory to which `root` leads is analyzed, or the option whose missing
value is needed for that. -/
def scopeAt (plan : Plan) (tree : Node) (root : Path) : Except Opt Scope :=
  if hasGap plan.extensions then .error .extension
  else if plan.asksExclusion tree root then .error .excludeGlob
  else if plan.asksInclusion tree root then .error .includeGlob
  else .ok plan.scope

end Plan

end ImportLint
