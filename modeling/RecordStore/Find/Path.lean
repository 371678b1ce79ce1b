import RecordStore.Text.Split
import RecordStore.Value.Basic

/-!
# Attribute paths

A path is written with dots; empty segments do not count. In a statement every segment is a parameter of its
own, so what a path contains can never change the form of the statement.
-/

namespace RecordStore
namespace Find

def segments (path : String) : List String :=
  ((Text.splitBy (· = '.') path.toList).filter fun segment => !segment.isEmpty).map String.ofList

def segmentName (stem : String) (position : Nat) : String :=
  stem ++ "_" ++ toString position

/-- How a path of so many segments is written. -/
def pathText (stem : String) (length : Nat) : String :=
  ".".intercalate ((List.range length).map fun position => "@" ++ segmentName stem position)

def bindSegments (stem : String) : Nat → List String → List (String × Value)
  | _, [] => []
  | position, segment :: rest =>
    (segmentName stem position, .string segment) :: bindSegments stem (position + 1) rest

end Find
end RecordStore
