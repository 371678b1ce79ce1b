import RecordStore.Text.Category

/-!
# Properties

A property, or a value of a property, is a set of characters. Most follow the general categories closely, so such
a set is given by some categories, the ranges that it has besides them and the ranges that it lacks.
-/

namespace RecordStore
namespace Text

/-- A named set of characters: categories, with ranges added and ranges taken away. -/
structure Property where
  /-- The names of the property: lower case letters, without what does not count in a name. -/
  names : List String
  categories : List Category
  more : String
  except : String
  deriving Repr

namespace Property

def set (p : Property) : CharSet :=
  ((Category.set p.categories).union (.ofText p.more)).diff (.ofText p.except)

def named? (name : String) (properties : List Property) : Option Property :=
  properties.find? fun p => p.names.contains name

end Property

end Text
end RecordStore
