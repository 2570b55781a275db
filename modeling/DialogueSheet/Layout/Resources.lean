/-
# What sheets are drawn from

A way to measure texts, the pictures of the assets, and the tables of students,
items and terms.
-/
import DialogueSheet.Catalog.Catalog
import DialogueSheet.Layout.Flow
import DialogueSheet.Typeset.Cells

namespace DialogueSheet

/-- What sheets are drawn from. -/
structure Resources where
  measure : TextMeasure
  /-- The picture of a kind and a name. -/
  picture? : AssetKind → String → Option Picture
  /-- The picture at a path. -/
  pictureAt? : String → Option Picture
  catalog : Catalog
  items : ItemTables
  localization : Localization

namespace Resources

/-- The resources of an asset root, with given tables. -/
def ofTables (K : Codec) (files : Files) (root : AssetRoot) (catalog : Catalog)
    (items : ItemTables) (localization : Localization) : Resources where
  measure := CellText.measure
  picture? kind name := (Cache.empty.get (files.picture? K) root kind name).2
  pictureAt? path := (Cache.empty.load (files.picture? K) path).2
  catalog := catalog
  items := items
  localization := localization

/-- The resources of an asset root, all from its files. -/
def load (K : Codec) (files : Files) (root : AssetRoot) : Resources :=
  ofTables K files root (.load files root) (.load files root) (.load files root)

/-- Measures a text. -/
def setText (r : Resources) (request : TextRequest) : Except Failure SetText :=
  (r.measure request).map (⟨request, ·⟩)

end Resources

/-- Half of what is left of `whole` beside `part`, rounded toward zero. -/
def centeredOffset (whole part : Nat) : Int := Int.tdiv ((whole : Int) - part) 2

end DialogueSheet
