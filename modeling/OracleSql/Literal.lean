import OracleSql.Text.Basic

/-!
# String literals

A literal stands in single quotes, and a quote inside it is written twice.
-/

namespace OracleSql

/-- **A string literal.** -/
def quote (s : String) : String :=
  "'" ++ Text.double '\'' s ++ "'"

/-- A text without single quotes, which stands in a literal as it is. -/
def QuoteFree (s : String) : Prop :=
  '\'' ∉ s.toList

instance (s : String) : Decidable (QuoteFree s) :=
  inferInstanceAs (Decidable (¬ _))

end OracleSql
