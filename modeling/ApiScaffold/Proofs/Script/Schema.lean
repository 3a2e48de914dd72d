import ApiScaffold.Proofs.Description.Proper
import ApiScaffold.Proofs.TestCase
import ApiScaffold.Script.Line

/-!
# Embedded schemas

A script declares the schema of a response as its printed text, with all lines but the first moved to the depth of
the declaration. The lines are moved as text, without a look at what they say. This is right because of how a
value is printed: none of its lines is empty, and none begins inside a string. So only white space between lexemes
changes, and the declaration denotes the schema (`embeds_schema`).

That takes a schema whose numbers can be printed so that they come back. The schemas of a description that was read
from a text are all of this kind, so a script declares the schema of its response as it stands in the description
(`read?_schema_of_build`).
-/

namespace ApiScaffold.Script

open Json

variable {v : Json} {depth : Nat}

/-- The text of a value, moved to a depth. -/
theorem toList_indentRest_pretty (v : Json) (depth : Nat) :
    (Text.indentRest depth v.pretty).toList =
      Text.afterFeeds (List.replicate depth ' ') v.pretty.toList :=
  Text.toList_indentRest (layout_prettyAt v 0).isLined depth

example : Text.indentRest 4 (Json.obj [("a", .str "x\ny")]).pretty =
    "\x7b\n      \"a\": \"x\\ny\"\n    \x7d" := by
  decide +kernel

/-- Moving lines keeps the lexemes. -/
theorem scan?_indentRest_pretty (v : Json) (depth : Nat) :
    Lexeme.scan? (Text.indentRest depth v.pretty).toList = some (lexemes v) := by
  rw [toList_indentRest_pretty, Lexeme.scan?_afterFeeds]
  exact (layout_prettyAt v 0).scan?

/-- A moved text denotes the value that was printed. -/
theorem read?_indentRest_pretty (h : v.IsProper) (depth : Nat) :
    Lexeme.read? (Text.indentRest depth v.pretty) = some v := by
  rw [Lexeme.read?, scan?_indentRest_pretty, Option.bind_some]
  exact Lexeme.value?_lexemes h

/-- **The embedded schema is the declared schema.** Of its printed text, the declaration changes nothing but that it
puts the spaces of its depth after each line feed. No line feed stands in a string. So the declaration has the
lexemes of the printed text, and denotes the schema, whatever its strings hold. -/
theorem embeds_schema (v : Json) (depth : Nat) :
    (Text.indentRest depth v.pretty).toList =
        Text.afterFeeds (List.replicate depth ' ') v.pretty.toList ∧
      (∀ before after, v.pretty.toList = before ++ '\n' :: after → Lexeme.LeavesOutside before) ∧
      Lexeme.scan? v.pretty.toList = some (lexemes v) ∧
      Lexeme.scan? (Text.indentRest depth v.pretty).toList = some (lexemes v) ∧
      (v.IsProper → Lexeme.read? (Text.indentRest depth v.pretty) = some v) ∧
      ∀ t : TestCase, t.schema = some v →
        schemaLines depth t =
          [indented depth "/*eslint-disable*/",
            indented depth ("var schema = " ++ Text.indentRest depth v.pretty ++ ";"), "",
            indented depth "/*eslint-enable*/"] := by
  have hprinted : Lexeme.scan? v.pretty.toList = some (lexemes v) := (layout_prettyAt v 0).scan?
  refine ⟨toList_indentRest_pretty v depth, ?_, hprinted, scan?_indentRest_pretty v depth,
    fun h => read?_indentRest_pretty h depth, ?_⟩
  · intro before after htext
    exact Lexeme.leavesOutside_of_scan? hprinted htext
  · intro t ht
    rw [schemaLines, TestCase.schemaText, ht]
    rfl

/-- A schema whose strings hold a line break, a quote and a backslash, and which holds a fraction. -/
def breakingSchema : Json :=
  .obj [("pattern", .str "a\n\"\\"), ("enum", .arr [.int 1, .float ⟨false, twoTo 52, -53⟩, .null])]

theorem embeds_breakingSchema :
    Lexeme.read? (Text.indentRest 6 breakingSchema.pretty) = some breakingSchema ∧
      schemaLines 6 { (default : TestCase) with schema := some breakingSchema } =
        [indented 6 "/*eslint-disable*/",
          indented 6 ("var schema = " ++ Text.indentRest 6 breakingSchema.pretty ++ ";"), "",
          indented 6 "/*eslint-enable*/"] := by
  have hfraction : Binary64.IsCanonical ⟨false, twoTo 52, -53⟩ :=
    ⟨by decide, by decide, by decide, .inr (by decide)⟩
  have hproper : breakingSchema.IsProper := by
    refine .obj ?_
    simp only [List.forall_mem_cons]
    refine ⟨.str _, .arr ?_, List.forall_mem_nil _⟩
    simp only [List.forall_mem_cons]
    exact ⟨.int 1, .float hfraction, .null, List.forall_mem_nil _⟩
  obtain ⟨-, -, -, -, hread, hlines⟩ := embeds_schema breakingSchema 6
  exact ⟨hread hproper, hlines _ rfl⟩

/-- **What a script declares is read as the schema of the response**, for every case that is built for a
description that was read from a text, as JSON or as YAML. -/
theorem read?_schema_of_build {text : String} {api : Description} {config : RunConfig}
    {security : List SecurityRequirement} {request : CaseRequest} {t : TestCase}
    (hread : Description.ofText? text = some api)
    (hbuild : TestCase.build api config security request = .ok t) (ht : t.schema = some v) (depth : Nat) :
    Lexeme.read? (Text.indentRest depth v.pretty) = some v := by
  obtain ⟨operation, response, hoperation, hresponse, hschema⟩ := TestCase.schema_of_build hbuild
  have hdeclared : response.schema = some v := hschema.symm.trans ht
  exact read?_indentRest_pretty (Description.isProper_schema hread hoperation hresponse hdeclared) depth

end ApiScaffold.Script
