import RecordService.Query.Page
import RecordService.Query.Predicate
/-!
# Selections

What is read from a table: the rows that satisfy every predicate, in an order, and of those a window.
-/
namespace RecordService

structure Selection where
  filter : List Predicate
  orderBy : List OrderBy
  limit : Option Nat
  offset : Option Nat

namespace Selection

/-- Every row that satisfies the filter, in the order the store keeps them. -/
def allOf (filter : List Predicate) : Selection := ⟨filter, [], none, none⟩

def firstOf (filter : List Predicate) : Selection := ⟨filter, [], some 1, none⟩

end Selection

end RecordService
