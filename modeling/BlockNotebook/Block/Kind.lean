import BlockNotebook.Text.CodePoint
/-!
The kinds of block that have a form of their own.
-/

namespace BlockNotebook

inductive Kind
  | code
  | sql
  | inputText
  | inputTextarea
  | inputCheckbox
  | inputSelect
  | inputSlider
  | inputFile
  | inputDate
  | inputDateRange
  | button
  | visualization
  | bigNumber
  | paragraph
  | heading1
  | heading2
  | heading3
  | bullet
  | todo
  | callout
  | image
  | markdown
  | separator
  deriving DecidableEq, Repr

namespace Kind

/-- Every kind. -/
def all : List Kind := [
  .code, .sql, .inputText, .inputTextarea, .inputCheckbox, .inputSelect, .inputSlider, .inputFile,
  .inputDate, .inputDateRange, .button, .visualization, .bigNumber, .paragraph, .heading1, .heading2,
  .heading3, .bullet, .todo, .callout, .image, .markdown, .separator]

/-- The type of a block of the kind, as documents write it. -/
def name : Kind → String
  | .code => "code"
  | .sql => "sql"
  | .inputText => "input-text"
  | .inputTextarea => "input-textarea"
  | .inputCheckbox => "input-checkbox"
  | .inputSelect => "input-select"
  | .inputSlider => "input-slider"
  | .inputFile => "input-file"
  | .inputDate => "input-date"
  | .inputDateRange => "input-date-range"
  | .button => "button"
  | .visualization => "visualization"
  | .bigNumber => "big-number"
  | .paragraph => "text-cell-p"
  | .heading1 => "text-cell-h1"
  | .heading2 => "text-cell-h2"
  | .heading3 => "text-cell-h3"
  | .bullet => "text-cell-bullet"
  | .todo => "text-cell-todo"
  | .callout => "text-cell-callout"
  | .image => "image"
  | .markdown => "markdown"
  | .separator => "separator"

/-- The kind that a type names. -/
def ofName? (name : Text) : Option Kind := all.find? (name == ·.name)

theorem mem_all (k : Kind) : k ∈ all := by cases k <;> decide

theorem ofName?_name (k : Kind) : ofName? k.name = some k := by
  simp only [ofName?, Text.ofString_beq]
  cases k <;> decide +kernel

theorem name_inj {j k : Kind} (h : j.name = k.name) : j = k :=
  Option.some_inj.1 ((ofName?_name j).symm.trans (h ▸ ofName?_name k))

theorem name_of_ofName? {t : Text} {k : Kind} (h : ofName? t = some k) : t = k.name := by
  have := List.find?_some h
  simpa using this

/-- A cell of prose. -/
def isText : Kind → Bool
  | .paragraph | .heading1 | .heading2 | .heading3 | .bullet | .todo | .callout => true
  | _ => false

/-- Compiles to code. -/
def hasCode : Kind → Bool
  | .code | .sql | .inputText | .inputTextarea | .inputCheckbox | .inputSelect | .inputSlider
  | .inputFile | .inputDate | .inputDateRange | .button | .visualization | .bigNumber => true
  | _ => false

/-- Compiles to markdown. -/
def hasMarkdown (k : Kind) : Bool := !k.hasCode

end Kind

end BlockNotebook
