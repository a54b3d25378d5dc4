import FallingSand.Mod.Consequence

/-!
# Compiling a mod

A mod compiles in five steps: gather what it declares, check every statement, close the
memberships, list the consequences, and collect them into a rule set.  The first fault ends it.
-/

namespace FallingSand

/-- The rule set of a mod, or its first fault. -/
def Declarations.compile (declarations : Declarations) : Except CompileError RuleSet := do
  let entries := declarations.entries
  let declared ← Declared.ofEntries entries
  let directives ← declared.directives entries
  let registry :=
    (declared.registry.withTemplates directives).close directives declared.catalog.size
  let consequences ← directives.mapM fun directive => directive.checkedConsequences registry
  let consequences := consequences.flatten
  let catalog := consequences.foldl Consequence.addTo declared.catalog
  return RuleSet.ofRules declared.title (catalog.resolveAll registry.relationsOf) registry
    (consequences.filterMap Consequence.reaction?)
    (consequences.filterMap Consequence.transition?)

end FallingSand
