import OracleSql.Statement

/-!
# Pages

Before release 12c a page is cut out of a query through `rownum`, which numbers rows as they pass
the filter.  A page of one row, or one that starts at the first, compares `rownum` itself; all
others number the rows in an inner query first and compare the column `"rn"`.
-/

namespace OracleSql

/-- The largest bound of a page; sums beyond it stay there. -/
def maxBound : Nat := Nat.pow 2 64 - 1

/-- The comparison that keeps the rows of a page. -/
def rowConstraint (limit offset : UInt64) : String :=
  let start := min (offset.toNat + 1) maxBound
  if limit = 1 then "= 1"
  else if 1 < limit then
    "between " ++ toString start ++ " and " ++ toString (min (offset.toNat + limit.toNat) maxBound)
  else ">= " ++ toString start

/-- **The page of a query**: `limit` rows after the first `offset` ones, all of them when the
limit is zero. -/
def paginate (inner : Sql) (limit offset : UInt64) : Sql :=
  if 1 < limit ∨ limit = 0 ∧ 0 < offset then
    "select t2.* from (select rownum as \"rn\", t1.* from (" ++ inner
      ++ ") t1) t2 where t2.\"rn\" " ++ rowConstraint limit offset
  else "select * from (" ++ inner ++ ") where rownum " ++ rowConstraint limit offset

end OracleSql
