import ShopClient.Toml.Statement

/-!
# TOML documents

What a document holds after each of its statements: the entries so far, and the header that the next
pairs belong to.

* `parse?`: the entries of a document. A byte order mark may lead it.
-/

namespace ShopClient.Toml

/-- What the statements so far have made. -/
structure Document where
  entries : Entries := []
  /-- The way to the table that the next pairs belong to. -/
  current : List String := []

namespace Document

/-- The document after one more statement, if its tables allow it. -/
def extend? (d : Document) : Statement → Option Document
  | .pair key v => (d.entries.within? (Entries.put? v key) d.current).map ({ d with entries := · })
  | .table key =>
    (d.entries.within? (Entries.open? (key.getLastD "")) key.dropLast).map (⟨·, key⟩)
  | .item key =>
    (d.entries.within? (Entries.add? (key.getLastD "")) key.dropLast).map (⟨·, key⟩)

/-- The document that statements make. -/
def ofStatements? (statements : List Statement) : Option Document :=
  statements.foldlM extend? {}

end Document

/-- The entries of the document that a text is. -/
def parse? (text : String) : Option Entries := do
  let body := match text.toList with
    | '\uFEFF' :: rest => rest
    | s => s
  return (← Document.ofStatements? (← statements body)).entries

end ShopClient.Toml
