import AgentFlow.Yaml.Graph

/-!
# Merge keys

A mapping with the key `<<` takes over the entries of other mappings, in front of its
own.  The mappings that it merges are changed in the same way first, wherever else in the
document they stand; a mapping that merges itself finds the key gone already.
-/

namespace AgentFlow.Yaml

/-- Work on the nodes of a document. -/
abbrev Editing := StateT Graph (Except Fault)

/-- The entries before the first merge key, the value of that key, and the entries after
it. -/
def splitAtMerge? (graph : Graph) : Entries → Option (Entries × NodeId × Entries)
  | [] => none
  | (key, value) :: rest =>
    if graph.tag key = .merge then some ([], value, rest)
    else (splitAtMerge? graph rest).map fun (before, found) => ((key, value) :: before, found)

/-- The entries of a node that must be a mapping. -/
def mappingEntries (id : NodeId) : Editing Entries := do
  match (← get).entries? id with
  | some entries => return entries
  | none => throw .malformed

/-- Put the entries that a mapping merges in front of its own.  Its key `=` becomes a
text. -/
def mergeInto (takeMerged : NodeId → Editing Entries) (id : NodeId) : Editing Entries := do
  let _ ← mappingEntries id
  let merged ← takeMerged id
  let own ← mappingEntries id
  for (key, _) in own do
    if (← get).tag key = .value then modify (·.setTag key .str)
  modify (·.setContent id (.mapping (merged ++ own)))
  return merged ++ own

/-- Take the merge keys out of a mapping, and give the entries that they stand for. -/
def takeMerged : Nat → NodeId → Editing Entries
  | 0, _ => throw .malformed
  | fuel + 1, id => do
    match splitAtMerge? (← get) (← mappingEntries id) with
    | none => return []
    | some (before, source, after) =>
      modify (·.setContent id (.mapping (before ++ after)))
      let entries ←
        match (← get).content source with
        | .mapping _ => mergeInto (takeMerged fuel) source
        | .sequence items => do
          let parts ← items.mapM (mergeInto (takeMerged fuel))
          pure parts.reverse.flatten
        | .scalar _ => throw .malformed
      return entries ++ (← takeMerged fuel id)

/-- Carry out the merge keys of a mapping.  Each step takes one of them away, so there
are no more steps than entries. -/
def merge (id : NodeId) : Editing Entries := do
  mergeInto (takeMerged ((← get).entryCount + 1)) id

end AgentFlow.Yaml
