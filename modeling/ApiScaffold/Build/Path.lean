import ApiScaffold.Build.Operation

/-!
# Building a path

A path has a block of its active operations, in the order of the document; a path without any has no
block. Each path starts with a fresh context, so its imports are its own.
-/

namespace ApiScaffold.PathBlock

/-- Builds operations one after the other, up to the first fault. -/
def buildOperations (api : Description) (config : RunConfig) (path : String) :
    List Method → RunContext → Built (List OperationBlock) × RunContext
  | [], context => (.ok [], context)
  | method :: rest, context =>
    match OperationBlock.build api config path method context with
    | (.error fault, context) => (.error fault, context)
    | (.ok block, context) =>
      let (blocks, context) := buildOperations api config path rest context
      (blocks.map (block :: ·), context)

/-- **Block of a path**, unless it has no active operation. -/
def build (api : Description) (config : RunConfig) (path : String) :
    Built (Option PathBlock) := do
  let item ← api.pathItem path
  let (operations, context) :=
    buildOperations api config path (item.active.map (·.1)) {}
  let operations ← operations
  return if operations.isEmpty then none
    else some ⟨path, api.scheme, api.host, operations, context.imports⟩

end ApiScaffold.PathBlock
