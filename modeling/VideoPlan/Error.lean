/-!
# Errors

Every way in which reading, binding or planning a statement can fail, as a cause. The wording is in
`Error.message`; `Error.kind` groups the causes as callers see them.
-/

namespace VideoPlan

/-- Why a text is not a statement. -/
inductive ParseFault
  /-- The text is outside the grammar of SQL. -/
  | refused
  /-- The parts of the text are nested too deeply. -/
  | tooDeep
  | noStatement
  | severalStatements
  /-- A token other than the `wanted` one comes next. -/
  | unexpected (wanted found : String)
  | unknownColumnType (name : String)
  | unknownElementType (name : String)
  | invalidDimension (digits : String)
  | insertWithoutValues
  | notANumber (digits : String)
deriving DecidableEq

/-- The wording of a parse fault. -/
def ParseFault.message : ParseFault → String
  | .refused => "sql parser error:"
  | .tooDeep => "sql parser error:"
  | .noStatement => "Empty SQL statement"
  | .severalStatements => "Multiple statements not supported"
  | .unexpected wanted found => "Expected " ++ wanted ++ ", found: " ++ found
  | .unknownColumnType name => "Unknown column type: " ++ name
  | .unknownElementType name => "Unknown NDARRAY element type: " ++ name
  | .invalidDimension digits => "Invalid array dimension: " ++ digits
  | .insertWithoutValues => "INSERT without VALUES"
  | .notANumber digits => "Cannot parse number: " ++ digits

/-- Why names, declarations or values do not fit the catalog. -/
inductive BindFault
  | emptyColumnName
  | missingElementType (column : String)
  | unexpectedElementType (column : String)
  | unexpectedDimensions (column : String)
  | duplicateColumn (column : String)
  | compoundIdentifier (name : String)
  | wildcardWithoutTable
  | predicateType (predicate type : String)
  /-- The row, counted from one, has another number of values than there are target columns. -/
  | rowLength (row values columns : Nat)
deriving DecidableEq

/-- The wording of a bind fault. -/
def BindFault.message : BindFault → String
  | .emptyColumnName => "Column name must not be empty"
  | .missingElementType column => "NDARRAY column " ++ column ++ " needs an element type"
  | .unexpectedElementType column =>
    "Column " ++ column ++ " is not an NDARRAY but has an element type"
  | .unexpectedDimensions column => "Column " ++ column ++ " is not an NDARRAY but has dimensions"
  | .duplicateColumn column => "Duplicate column name: " ++ column
  | .compoundIdentifier name => "Unsupported compound identifier: " ++ name
  | .wildcardWithoutTable => "SELECT * requires a FROM clause"
  | .predicateType predicate type =>
    "WHERE predicate " ++ predicate ++ " is " ++ type ++ ", not BOOLEAN"
  | .rowLength row values columns =>
    "INSERT row " ++ toString row ++ " has " ++ toString values ++ " values but " ++
      toString columns ++ " columns were targeted"

/-- Parts of SQL that are read but have no plan. -/
inductive Feature
  | withClause
  | orderBy
  | limitOffset
  | queryBody (text : String)
  | distinct
  | having
  | severalTables
  | join
  | tableAlias
  | tableFactor (text : String)
  | insertSelect
  | qualifiedWildcard (name : String)
  | unaryOperator (name : String)
  | binaryOperator (name : String)
  | value (shown : String)
  | subqueryArguments
  | argument (text : String)
  | expression (text : String)
deriving DecidableEq

/-- The wording of a feature without a plan. -/
def Feature.message : Feature → String
  | .withClause => "WITH clause"
  | .orderBy => "ORDER BY"
  | .limitOffset => "LIMIT/OFFSET"
  | .queryBody text => "Query body: " ++ text
  | .distinct => "DISTINCT"
  | .having => "HAVING"
  | .severalTables => "Multiple tables in FROM"
  | .join => "JOIN"
  | .tableAlias => "Table aliases"
  | .tableFactor text => "Table factor: " ++ text
  | .insertSelect => "INSERT ... SELECT"
  | .qualifiedWildcard name => "Qualified wildcard: " ++ name ++ ".*"
  | .unaryOperator name => "Unary operator not supported: " ++ name
  | .binaryOperator name => "Binary operator not supported: " ++ name
  | .value shown => "Value type not supported: " ++ shown
  | .subqueryArguments => "Subquery function arguments"
  | .argument text => "Function argument not supported: " ++ text
  | .expression text => "Expression not supported: " ++ text

/-- Why a dataset was not created. -/
inductive CreationFault
  | emptyName
  | nameTaken (name : String)
  /-- The store behind the catalog failed, for a reason of its own. -/
  | failed (reason : String)
deriving DecidableEq

/-- The wording of a creation fault. -/
def CreationFault.message : CreationFault → String
  | .emptyName => "dataset name must not be empty"
  | .nameTaken name => "dataset already exists: " ++ name
  | .failed reason => reason

/-- The kinds of error that callers tell apart. -/
inductive ErrorKind
  | parse
  | plan
  | bind
  | unsupportedStatement
  | tableNotFound
  | columnNotFound
  | catalogCreation
  | invalidArgument
  | notImplemented
  | io
  | json
  | internal
deriving DecidableEq

/-- Any failure of the planner. -/
inductive Error
  | parse (fault : ParseFault)
  /-- The statement of this kind asks for nothing that could be planned. -/
  | noPlan (kind : String)
  | bind (fault : BindFault)
  | unsupportedStatement (sql : String)
  | tableNotFound (name : String)
  | columnNotFound (name : String)
  | creation (fault : CreationFault)
  /-- No factory is registered under the name. -/
  | unknownName (name : String)
  | notImplemented (feature : Feature)
  /-- The catalog file cannot be read. -/
  | io
  /-- The catalog file does not describe a catalog. -/
  | json
  | internal (reason : String)
deriving DecidableEq

/-- The kind of an error. -/
def Error.kind : Error → ErrorKind
  | .parse _ => .parse
  | .noPlan _ => .plan
  | .bind _ => .bind
  | .unsupportedStatement _ => .unsupportedStatement
  | .tableNotFound _ => .tableNotFound
  | .columnNotFound _ => .columnNotFound
  | .creation _ => .catalogCreation
  | .unknownName _ => .invalidArgument
  | .notImplemented _ => .notImplemented
  | .io => .io
  | .json => .json
  | .internal _ => .internal

/-- The wording of an error. -/
def Error.message : Error → String
  | .parse fault => "Parse error: " ++ fault.message
  | .noPlan kind => "Plan error: " ++ kind ++ " statement produced no plan"
  | .bind fault => "Bind error: " ++ fault.message
  | .unsupportedStatement sql => "Unsupported statement: " ++ sql
  | .tableNotFound name => "Table not found: " ++ name
  | .columnNotFound name => "Column not found: " ++ name
  | .creation fault => "Catalog creation failed: " ++ fault.message
  | .unknownName name => "Invalid argument: Unknown name: " ++ name
  | .notImplemented feature => "Not implemented: " ++ feature.message
  | .io => "IO error:"
  | .json => "JSON error:"
  | .internal reason => "Internal error: " ++ reason

/-- An action that may fail and that changes a state of type `σ`, also where it fails. -/
abbrev Action (σ α : Type) := ExceptT Error (StateM σ) α

/-- The action that leaves the state as it is. -/
def Action.ofExcept : Except Error α → Action σ α
  | .ok x => return x
  | .error error => throw error

/-- The answer of an action and the state it leaves. -/
def Action.answer (action : Action σ α) (state : σ) : Except Error α × σ :=
  (ExceptT.run action).run state

end VideoPlan
