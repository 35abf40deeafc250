import SyntheticTable.TableSpec

/-!
# Written specifications

A specification as a YAML document: one line for each kind and each field, in
a fixed order, with the parameters indented below their name.
-/

namespace SyntheticTable.TableSpec

/-- The lines of the list of kinds. -/
def typeLines (types : List SemanticType) : List String :=
  if types.isEmpty then ["types: []"]
  else "types:" :: types.map fun type => "- " ++ type.name

/-- The text of an optional seed. -/
def seedText : Option UInt32 → String
  | none => "null"
  | some seed => toString seed.toNat

/-- The lines of the document. -/
def yamlLines (spec : TableSpec) : List String :=
  typeLines spec.types
    ++ ["column_count: " ++ toString spec.columnCount.toNat,
      "table_bytes: " ++ toString spec.tableBytes.toNat,
      "seed: " ++ seedText spec.seed?,
      "params:",
      "  null_frequency: " ++ spec.params.nullFrequency.text .yaml,
      "  cardinality: " ++ toString spec.params.cardinality.toNat,
      "  avg_run_length: " ++ toString spec.params.averageRunLength.toNat]

/-- The specification as a YAML document. -/
def toYaml (spec : TableSpec) : String :=
  String.join (spec.yamlLines.map (· ++ "\n"))

end SyntheticTable.TableSpec
