import TabularAudit.Rule.Basic

/-! The rules that come with the program. -/

namespace TabularAudit.Rule.Bundled

def floatingPointTypes : Rule :=
  { id := "AVOID_FLOATING_POINT_DATA_TYPES"
    name := "[Performance] Do not use floating point data types"
    category := "Performance"
    severity := .int 2
    description := "Floating point data types can cause unexpected results when rounding or aggregating data. Use the Int64 or Decimal data types instead."
    scope := .text "DataColumn, CalculatedColumn, CalculatedTableColumn"
    expression := .text "DataType = DataType.Double"
    fixExpression := .text "DataType = DataType.Decimal"
    compatibilityLevel := .int 1200 }

def unusedInHierarchies : Rule :=
  { id := "SET_ISAVAILABLEINMDX_TO_FALSE_ON_NON-ATTRIBUTE_COLUMNS"
    name := "[Performance] Set IsAvailableInMdx to false on non-attribute columns"
    category := "Performance"
    severity := .int 2
    description := "To speed up processing time and conserve memory after processing, attribute hierarchies should not be built for columns that are never used for slicing by MDX clients."
    scope := .text "DataColumn, CalculatedColumn, CalculatedTableColumn"
    expression := .text "IsAvailableInMDX\r\nand\r\n(IsHidden or Table.IsHidden)\r\nand\r\nSortByColumn == null\r\nand\r\nnot UsedInRelationships.Any()"
    fixExpression := .text "IsAvailableInMDX = false"
    compatibilityLevel := .int 1200 }

def autoDateTables : Rule :=
  { id := "REMOVE_AUTO-DATE_TABLE"
    name := "[Performance] Remove auto-date table"
    category := "Performance"
    severity := .int 2
    description := "Avoid using auto-date tables. Make sure to turn off auto-date table in the settings in Power BI Desktop. This will save memory resources."
    scope := .text "Table, CalculatedTable"
    expression := .text "Name.StartsWith(\"DateTableTemplate_\")\r\nor\r\nName.StartsWith(\"LocalDateTable_\")"
    compatibilityLevel := .int 1200 }

def snowflakeSchema : Rule :=
  { id := "SNOWFLAKE_SCHEMA_ARCHITECTURE"
    name := "[Performance] Consider a star-schema instead of a snowflake architecture"
    category := "Performance"
    severity := .int 2
    description := "Generally speaking, a star-schema is the optimal architecture for tabular models. That being the case, there are valid cases to use a snowflake approach."
    scope := .text "Table, CalculatedTable"
    expression := .text "UsedInRelationships.Any(current.Name == FromTable.Name)\r\nand\r\nUsedInRelationships.Any(current.Name == ToTable.Name)"
    compatibilityLevel := .int 1200 }

def manyToManyDirection : Rule :=
  { id := "MANY-TO-MANY_RELATIONSHIPS_SHOULD_BE_SINGLE-DIRECTION"
    name := "[Performance] Many-to-many relationships should be single-direction"
    category := "Performance"
    severity := .int 2
    description := "Many-to-many relationships with bi-directional cross-filtering degrade query performance."
    scope := .text "Relationship"
    expression := .text "FromCardinality == \"Many\"\r\nand\r\nToCardinality == \"Many\"\r\nand\r\nCrossFilteringBehavior == CrossFilteringBehavior.BothDirections"
    compatibilityLevel := .int 1200 }

def unpartitionedLargeTables : Rule :=
  { id := "LARGE_TABLES_SHOULD_BE_PARTITIONED"
    name := "[Performance] Large tables should be partitioned"
    category := "Performance"
    severity := .int 2
    description := "Large tables should be partitioned in order to optimize processing."
    scope := .text "Table"
    expression := .text "Partitions.Count = 1\r\nand\r\nRowCount > 25000000"
    compatibilityLevel := .int 1200 }

def summarizedNumericColumns : Rule :=
  { id := "DO_NOT_SUMMARIZE_NUMERIC_COLUMNS"
    name := "[Formatting] Do not summarize numeric columns"
    category := "Formatting"
    severity := .int 3
    description := "Numeric columns (integer, decimal, double) should have their SummarizeBy property set to 'Do Not Summarize'."
    scope := .text "DataColumn, CalculatedColumn, CalculatedTableColumn"
    expression := .text "(DataType == DataType.Int64 or DataType == DataType.Decimal or DataType == DataType.Double)\r\nand\r\nSummarizeBy <> AggregateFunction.None\r\nand\r\nnot (IsHidden or Table.IsHidden)"
    fixExpression := .text "SummarizeBy = AggregateFunction.None"
    compatibilityLevel := .int 1200 }

def measuresWithoutFormat : Rule :=
  { id := "PROVIDE_FORMAT_STRING_FOR_MEASURES"
    name := "[Formatting] Provide format string for measures"
    category := "Formatting"
    severity := .int 2
    description := "Visible measures should have their format string property assigned."
    scope := .text "Measure"
    expression := .text "not IsHidden\r\nand\r\nnot Table.IsHidden\r\nand\r\nstring.IsNullOrWhitespace(FormatString)"
    compatibilityLevel := .int 1200 }

def percentageFormat : Rule :=
  { id := "PERCENTAGE_FORMATTING"
    name := "[Formatting] Percentage formatting"
    category := "Formatting"
    severity := .int 2
    description := "Columns and measures formatted as percentages should use the standard '#,0.0%;-#,0.0%;#,0.0%' format string."
    scope := .text "Measure, CalculatedColumn"
    expression := .text "FormatString.Contains(\"%\") and FormatString <> \"#,0.0%;-#,0.0%;#,0.0%\""
    fixExpression := .text "FormatString = \"#,0.0%;-#,0.0%;#,0.0%\""
    compatibilityLevel := .int 1200 }

def hideForeignKeys : Rule :=
  { id := "HIDE_FOREIGN_KEYS"
    name := "[Formatting] Hide foreign keys"
    category := "Formatting"
    severity := .int 2
    description := "Foreign keys should always be hidden."
    scope := .text "DataColumn, CalculatedColumn, CalculatedTableColumn"
    expression := .text "UsedInRelationships.Any(FromTable.Name == current.Name and FromCardinality == \"Many\")\r\nand\r\nIsHidden == false"
    fixExpression := .text "IsHidden = true"
    compatibilityLevel := .int 1200 }

def unmarkedDateTables : Rule :=
  { id := "DATE/CALENDAR_TABLES_SHOULD_BE_MARKED_AS_A_DATE_TABLE"
    name := "[Formatting] Date/calendar tables should be marked as a date table"
    category := "Formatting"
    severity := .int 2
    description := "This rule looks for tables that contain the words 'date' or 'calendar' as they should likely be marked as a date table."
    scope := .text "Table, CalculatedTable"
    expression := .text "(Name.ToUpper().Contains(\"DATE\") or Name.ToUpper().Contains(\"CALENDAR\"))\r\nand\r\nDataCategory <> \"Time\"\r\nand\r\nnot Name.StartsWith(\"DateTableTemplate_\")\r\nand\r\nnot Name.StartsWith(\"LocalDateTable_\")"
    compatibilityLevel := .int 1200 }

def iferrorFunction : Rule :=
  { id := "AVOID_USING_THE_IFERROR_FUNCTION"
    name := "[DAX Expressions] Avoid using the IFERROR function"
    category := "DAX Expressions"
    severity := .int 2
    description := "Avoid using the IFERROR function as it may cause performance degradation. If you are concerned about a divide-by-zero error, use the DIVIDE function."
    scope := .text "Measure, CalculatedColumn"
    expression := .text "RegEx.IsMatch(Expression,\"(?i)IFERROR\\s*\\(\")"
    compatibilityLevel := .int 1200 }

def divisionOperator : Rule :=
  { id := "USE_THE_DIVIDE_FUNCTION_FOR_DIVISION"
    name := "[DAX Expressions] Use the DIVIDE function for division"
    category := "DAX Expressions"
    severity := .int 2
    description := "Use the DIVIDE function instead of using \"/\". The DIVIDE function resolves divide-by-zero cases."
    scope := .text "Measure, CalculatedColumn, CalculationItem"
    expression := .text "RegEx.IsMatch(Expression,\"\\]\\s*\\/(?!\\/)(?!\\*)\")\r\nor\r\nRegEx.IsMatch(Expression,\"\\)\\s*\\/(?!\\/)(?!\\*)\")"
    compatibilityLevel := .int 1200 }

def addcolumnsOverSummarize : Rule :=
  { id := "AVOID_ADDCOLUMNS_OVER_SUMMARIZE"
    name := "[DAX Expressions] Avoid using SUMMARIZE to add columns"
    category := "DAX Expressions"
    severity := .int 1
    description := "Adding extension columns to SUMMARIZE is error-prone; wrap SUMMARIZE in ADDCOLUMNS or use SUMMARIZECOLUMNS instead."
    scope := .text "Measure, CalculatedColumn, CalculatedTable"
    expression := .text "Expression.IndexOf(\"SUMMARIZE(\", StringComparison.OrdinalIgnoreCase) >= 0\r\nand\r\nExpression.IndexOf(\"ADDCOLUMNS(\", StringComparison.OrdinalIgnoreCase) < 0"
    compatibilityLevel := .int 1200 }

def columnsWithoutSource : Rule :=
  { id := "DATA_COLUMNS_MUST_HAVE_A_SOURCE_COLUMN"
    name := "[Error Prevention] Data columns must have a source column"
    category := "Error Prevention"
    severity := .int 3
    description := "Data columns must have a source column. A data column without a source column will cause an error when processing the model."
    scope := .text "DataColumn"
    expression := .text "string.IsNullOrWhitespace(SourceColumn)"
    compatibilityLevel := .int 1200 }

def missingExpressions : Rule :=
  { id := "EXPRESSION-RELIANT_OBJECTS_MUST_HAVE_AN_EXPRESSION"
    name := "[Error Prevention] Expression-reliant objects must have an expression"
    category := "Error Prevention"
    severity := .int 3
    description := "Calculated columns, calculated tables and measures must have an expression. Without an expression, these objects will not show any values."
    scope := .text "Measure, CalculatedColumn, CalculatedTable"
    expression := .text "string.IsNullOrWhiteSpace(Expression)"
    compatibilityLevel := .int 1200 }

def mixedRelationshipTypes : Rule :=
  { id := "RELATIONSHIP_COLUMNS_SHOULD_BE_OF_THE_SAME_DATA_TYPE"
    name := "[Error Prevention] Relationship columns should be of the same data type"
    category := "Error Prevention"
    severity := .int 3
    description := "Columns used in a relationship should be of the same data type. Ideally, they will be of integer data type."
    scope := .text "Relationship"
    expression := .text "FromColumn.DataType != ToColumn.DataType"
    compatibilityLevel := .int 1200 }

def nonIntegerRelationships : Rule :=
  { id := "RELATIONSHIP_COLUMNS_SHOULD_BE_OF_INTEGER_DATA_TYPE"
    name := "[Performance] Relationship columns should be of integer data type"
    category := "Performance"
    severity := .int 1
    description := "It is a best practice for relationship columns to be of integer data type."
    scope := .text "Relationship"
    expression := .text "FromColumn.DataType != DataType.Int64\r\nor\r\nToColumn.DataType != DataType.Int64"
    compatibilityLevel := .int 1200 }

def invalidNameCharacters : Rule :=
  { id := "AVOID_INVALID_NAME_CHARACTERS"
    name := "[Error Prevention] Avoid invalid characters in names"
    category := "Error Prevention"
    severity := .int 3
    description := "This rule identifies if a name for a given object contains control characters, which cause an error when deploying the model."
    scope := .text "Table, Measure, Hierarchy, Level, Perspective, Partition, ProviderDataSource, DataColumn, CalculatedColumn, CalculatedTable, CalculatedTableColumn, KPI, StructuredDataSource, Variation, CalculationGroup, CalculationItem, ModelRole"
    expression := .text "Name.ToCharArray().Any(char.IsControl(it) and !char.IsWhiteSpace(it))"
    fixExpression := .text "Name = string.Concat( it.Name.ToCharArray().Where( c => !char.IsControl(c) || char.IsWhiteSpace(c) ))"
    compatibilityLevel := .int 1200 }

def visibleWithoutDescription : Rule :=
  { id := "VISIBLE_OBJECTS_WITH_NO_DESCRIPTION"
    name := "[Maintenance] Visible objects with no description"
    category := "Maintenance"
    severity := .int 1
    description := "Add descriptions to objects. These descriptions are shown on hover within the Field List in Power BI Desktop."
    scope := .text "Table, Measure, DataColumn, CalculatedColumn, CalculatedTable, CalculationGroup"
    expression := .text "string.IsNullOrWhitespace(Description)\r\nand\r\nIsHidden == false"
    fixExpression := .text "Description = Name"
    compatibilityLevel := .int 1200 }

def emptyPerspectives : Rule :=
  { id := "PERSPECTIVES_WITH_NO_OBJECTS"
    name := "[Maintenance] Perspectives with no objects"
    category := "Maintenance"
    severity := .int 1
    description := "Perspectives with no objects (tables) are most likely not necessary. Delete them."
    scope := .text "Perspective"
    expression := .text "Model.Tables.Any(InPerspective[current.Name]) == false"
    compatibilityLevel := .int 1200 }

def outerSpaces : Rule :=
  { id := "OBJECTS_SHOULD_NOT_START_OR_END_WITH_A_SPACE"
    name := "[Naming Conventions] Object names should not start or end with a space"
    category := "Naming Conventions"
    severity := .int 3
    description := "Objects should not start or end with a space. This usually happens by accident and is difficult to find."
    scope := .text "Model, Table, Measure, Hierarchy, Perspective, Partition, DataColumn, CalculatedColumn"
    expression := .text "Name.StartsWith(\" \") or Name.EndsWith(\" \")"
    fixExpression := .text "Name = Name.Trim()"
    compatibilityLevel := .int 1200 }

def smallFirstLetter : Rule :=
  { id := "FIRST_LETTER_OF_OBJECTS_MUST_BE_CAPITALIZED"
    name := "[Naming Conventions] First letter of objects must be capitalized"
    category := "Naming Conventions"
    severity := .int 1
    description := "The first letter of object names should be capitalized to maintain professional quality."
    scope := .text "Table, Measure, DataColumn, CalculatedColumn, CalculatedTable"
    expression := .text "Name.Substring(0,1).ToUpper() != Name.Substring(0,1)"
    compatibilityLevel := .int 1200 }

def specialCharacters : Rule :=
  { id := "OBJECT_NAMES_SHOULD_NOT_CONTAIN_SPECIAL_CHARACTERS"
    name := "[Naming Conventions] Object names must not contain special characters"
    category := "Naming Conventions"
    severity := .int 2
    description := "Object names should not include tabs, line breaks, etc."
    scope := .text "Model, Table, Measure, DataColumn, CalculatedColumn, CalculatedTable"
    expression := .text "Name.IndexOf(char(9)) > -1\r\nor\r\nName.IndexOf(char(10)) > -1\r\nor\r\nName.IndexOf(char(13)) > -1"
    compatibilityLevel := .int 1200 }

def catalogRules : List Rule :=
  [floatingPointTypes, unusedInHierarchies, autoDateTables, snowflakeSchema, manyToManyDirection,
    unpartitionedLargeTables, summarizedNumericColumns, measuresWithoutFormat, percentageFormat,
    hideForeignKeys, unmarkedDateTables, iferrorFunction, divisionOperator, addcolumnsOverSummarize,
    columnsWithoutSource, missingExpressions, mixedRelationshipTypes, nonIntegerRelationships,
    invalidNameCharacters, visibleWithoutDescription, emptyPerspectives, outerSpaces, smallFirstLetter,
    specialCharacters]

def calculatedColumnCount : Rule :=
  { id := "REDUCE_NUMBER_OF_CALCULATED_COLUMNS"
    name := "[Performance] Reduce number of calculated columns"
    category := "Performance"
    severity := .int 2
    description := "Calculated columns do not compress as well as data columns and take longer to refresh. Move the logic upstream (data warehouse or Power Query) where possible."
    scope := .text "Model"
    threshold := .int 5
    aggregate := .text "CalculatedColumnCount" }

def bidirectionalCount : Rule :=
  { id := "AVOID_EXCESSIVE_BI-DIRECTIONAL_RELATIONSHIPS"
    name := "[Performance] Avoid excessive bi-directional relationships"
    category := "Performance"
    severity := .int 2
    description := "Bi-directional cross-filtering makes filter propagation ambiguous and slows queries. Prefer single-direction relationships unless explicitly required."
    scope := .text "Model"
    threshold := .int 3
    aggregate := .text "BidirectionalRelationshipCount" }

/-- Added to every catalog that has no rule of the same id. -/
def modelRules : List Rule := [calculatedColumnCount, bidirectionalCount]

end TabularAudit.Rule.Bundled
