import BlockNotebook.Block.Kind
import BlockNotebook.Schema.Shape
/-!
The shapes of blocks.

Every kind has its own metadata. Any other type is a block with open metadata.
Blocks and all that is inside them keep entries they do not know, so that
documents of newer editors survive.
-/

namespace BlockNotebook

open Schema

namespace Block

/-! ## Fields -/

/-- A field that must be given. -/
def required (name : String) (shape : Shape) : RecordField Shape := ⟨name, name, shape, none⟩

/-- A field that must be given, and its key. -/
def requiredAs (name key : String) (shape : Shape) : RecordField Shape := ⟨name, key, shape, none⟩

/-- A field that is null when it is left out. -/
def optional (name : String) (shape : Shape) : RecordField Shape := ⟨name, name, .nullable shape, some .null⟩

/-- A field that is null when it is left out, and its key. -/
def optionalAs (name key : String) (shape : Shape) : RecordField Shape :=
  ⟨name, key, .nullable shape, some .null⟩

/-! ## Table state -/

def formattingRuleShape : Shape :=
  .record "CellFormattingRule" true [required "column" .text, required "rule" .text]

def displayNameShape : Shape :=
  .record "ColumnDisplayName" true
    [requiredAs "column_name" "columnName" .text, requiredAs "display_name" "displayName" .text]

def tableFilterShape : Shape :=
  .record "TableFilter" true [required "id" .text, required "value" .text]

def tableSortShape : Shape :=
  .record "TableSort" true [required "id" .text, required "desc" .flag]

/-- How a table is displayed: filters, order, paging. -/
def tableStateShape : Shape :=
  .record "TableState" true [
    optionalAs "cell_formatting_rules" "cellFormattingRules" (.listOf formattingRuleShape),
    optionalAs "column_display_names" "columnDisplayNames" (.listOf displayNameShape),
    optionalAs "column_order" "columnOrder" (.listOf .text),
    optionalAs "conditional_filters" "conditionalFilters" (.listOf .any),
    optional "filters" (.listOf tableFilterShape),
    optionalAs "hidden_column_ids" "hiddenColumnIds" (.listOf .text),
    optionalAs "page_index" "pageIndex" .whole,
    optionalAs "page_size" "pageSize" .whole,
    optionalAs "sort_by" "sortBy" (.listOf tableSortShape),
    optionalAs "wrapped_text_column_ids" "wrappedTextColumnIds" (.listOf .text)]

/-! ## Formatted ranges -/

def marksShape : Shape :=
  .record "FormattedRangeMarks" true [
    optional "bold" .flag,
    optional "code" .flag,
    optional "color" .text,
    optional "italic" .flag,
    optional "strike" .flag,
    optional "underline" .flag]

def rangeBounds : List (RecordField Shape) := [
  requiredAs "from_code_point" "fromCodePoint" .whole,
  requiredAs "to_code_point" "toCodePoint" .whole]

def markedRangeShape : Shape :=
  .record "FormattedRangeText" true
    (rangeBounds ++ [required "marks" marksShape, optional "type" (.choice ["marks"])])

def linkRangeShape : Shape :=
  .record "FormattedRangeLink" true
    (rangeBounds ++ [required "ranges" (.listOf markedRangeShape), required "type" (.choice ["link"]),
      required "url" .text])

/-- A link, or else a range with marks. -/
def rangeShape : Shape := .tagged "type" "marks" [("marks", markedRangeShape), ("link", linkRangeShape)]

/-! ## Metadata -/

/-- What every kind that runs code records of its runs. -/
def executionFields : List (RecordField Shape) := [
  optional "execution_context_id" .text,
  optional "execution_millis" .number,
  optional "execution_start" .number,
  optional "is_code_hidden" .flag,
  optional "is_output_hidden" .flag,
  optional "last_executed_function_notebook_id" .text,
  optional "last_function_run_started_at" .number,
  optional "source_hash" .text]

/-- The variable an input assigns, and its value. -/
def variableFields (value : Shape) : List (RecordField Shape) := [
  required "deepnote_variable_name" .text,
  required "deepnote_variable_value" value]

def textFields : List (RecordField Shape) := [
  optionalAs "formatted_ranges" "formattedRanges" (.listOf rangeShape),
  optional "is_collapsed" .flag]

/-- The fields of the metadata of a kind. -/
def metadataFields : Kind → List (RecordField Shape)
  | .code => executionFields ++ [optional "deepnote_table_state" tableStateShape]
  | .sql => executionFields ++ [
      optional "deepnote_return_variable_type" (.choice ["dataframe", "query_preview"]),
      optional "deepnote_table_state" tableStateShape,
      optional "deepnote_variable_name" .text,
      optional "function_export_name" .text,
      optional "is_compiled_sql_query_visible" .flag,
      optional "sql_integration_id" .text]
  | .inputText | .inputTextarea | .inputFile => executionFields ++ variableFields .text
  | .inputCheckbox => executionFields ++ variableFields .flag
  | .inputSelect => executionFields ++ variableFields .textOrTexts ++ [
      optional "deepnote_variable_options" (.listOf .text),
      optional "deepnote_variable_custom_options" (.listOf .text),
      optional "deepnote_variable_selected_variable" .text,
      optional "deepnote_variable_select_type" (.choice ["from_options", "from_variable"]),
      optional "deepnote_allow_multiple_values" .flag]
  | .inputSlider => executionFields ++ variableFields .text ++ [
      optional "deepnote_slider_min_value" .number,
      optional "deepnote_slider_max_value" .number,
      optional "deepnote_slider_step" .number]
  | .inputDate => executionFields ++ variableFields .text ++
      [optional "deepnote_input_date_version" .whole]
  | .inputDateRange => executionFields ++ variableFields .textOrPair
  | .button => executionFields ++ [
      optional "deepnote_button_title" .text,
      optional "deepnote_button_color_scheme" .text,
      optional "deepnote_button_behavior" (.choice ["run", "set_variable"]),
      optional "deepnote_variable_name" .text]
  | .visualization => executionFields ++ [
      optional "deepnote_variable_name" .text,
      ⟨"deepnote_visualization_spec", "deepnote_visualization_spec", .any, some .null⟩,
      optional "deepnote_chart_filter"
        (.record "ChartFilter" true [optionalAs "advanced_filters" "advancedFilters" (.listOf .any)])]
  | .bigNumber => executionFields ++ [
      optional "deepnote_big_number_title" .text,
      optional "deepnote_big_number_value" .text,
      optional "deepnote_big_number_format" .text,
      optional "deepnote_big_number_comparison_enabled" .flag,
      optional "deepnote_big_number_comparison_title" .text,
      optional "deepnote_big_number_comparison_value" .text,
      optional "deepnote_big_number_comparison_type" .text,
      optional "deepnote_big_number_comparison_format" .text]
  | .paragraph | .heading1 | .heading2 | .heading3 | .bullet => textFields
  | .todo => textFields ++ [optional "checked" .flag]
  | .callout => textFields ++ [optional "color" (.choice ["blue", "green", "yellow", "red", "purple"])]
  | .image => [
      optional "deepnote_img_src" .text,
      optional "deepnote_img_width" .text,
      optional "deepnote_img_alignment" .text]
  | .markdown => [optional "deepnote_cell_height" .number]
  | .separator => []

/-- The name of the form of a kind. Cells of prose that differ in nothing else share one. -/
def title : Kind → String
  | .code => "CodeBlock"
  | .sql => "SqlBlock"
  | .inputText => "InputTextBlock"
  | .inputTextarea => "InputTextareaBlock"
  | .inputCheckbox => "InputCheckboxBlock"
  | .inputSelect => "InputSelectBlock"
  | .inputSlider => "InputSliderBlock"
  | .inputFile => "InputFileBlock"
  | .inputDate => "InputDateBlock"
  | .inputDateRange => "InputDateRangeBlock"
  | .button => "ButtonBlock"
  | .visualization => "VisualizationBlock"
  | .bigNumber => "BigNumberBlock"
  | .paragraph | .heading1 | .heading2 | .heading3 | .bullet => "TextBlock"
  | .todo => "TodoTextBlock"
  | .callout => "CalloutTextBlock"
  | .image => "ImageBlock"
  | .markdown => "MarkdownBlock"
  | .separator => "SeparatorBlock"

/-- The types that a form takes. -/
def typesOf (k : Kind) : List String := (Kind.all.filter fun j => title j == title k).map Kind.name

/-- The metadata may be left out if none of its fields must be given. -/
def metadataField (k : Kind) : RecordField Shape where
  name := "metadata"
  key := "metadata"
  shape := .record (title k ++ "Metadata") true (metadataFields k)
  whenAbsent := if (metadataFields k).all (·.whenAbsent.isSome) then some (.map []) else none

/-! ## Blocks -/

/-- The result of a run; no compiler looks into it. -/
def outputShape : Shape :=
  .record "BlockOutput" true [
    optional "data" .openMapping,
    optional "metadata" .openMapping,
    optional "name" .text,
    optional "output_type" .text,
    optional "text" .textOrTexts]

/-- The fields of a block whose type and metadata have the given shapes. -/
def fields (type : Shape) (metadata : RecordField Shape) : List (RecordField Shape) := [
  required "id" .text,
  required "type" type,
  requiredAs "sorting_key" "sortingKey" .text,
  optionalAs "block_group" "blockGroup" .text,
  optional "content" .text,
  optionalAs "execution_count" "executionCount" .whole,
  optional "outputs" (.listOf outputShape),
  optional "version" .whole,
  metadata]

/-- The shape of a block of a kind. -/
def shapeOf (k : Kind) : Shape :=
  .record (title k) true (fields (.choice (typesOf k)) (metadataField k))

/-- The shape of a block of any other type. -/
def genericShape : Shape :=
  .record "GenericBlock" true (fields .text ⟨"metadata", "metadata", .openMapping, some (.map [])⟩)

/-- The name of the arm for types that have no kind. -/
def genericArm : String := "generic"

/-- A block, by its type. -/
def shape : Shape :=
  .tagged "type" genericArm
    ((Kind.all.map fun k => (k.name, shapeOf k)) ++ [(genericArm, genericShape)])

/-- The names that tagged shapes in documents put into paths, by the field that holds their list. -/
def armNames : List (String × List String) := [
  ("blocks", Kind.all.map Kind.name ++ [genericArm]),
  ("formattedRanges", ["marks", "link"])]

end Block

end BlockNotebook
