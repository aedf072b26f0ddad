/-! Quoted identifiers: a name stands between double quotes, and a double quote inside it is
written twice, so that any text can be a name. -/
namespace Conform.Sql

/-- A name with every double quote written twice. -/
def escapeName : List Char → List Char
  | [] => []
  | c :: rest => if c = '"' then '"' :: '"' :: escapeName rest else c :: escapeName rest

/-- The name as an identifier. -/
def quote (name : String) : String := String.ofList ('"' :: escapeName name.toList ++ ['"'])

/-- The names as identifiers between commas. -/
def columnList (names : List String) : String := ", ".intercalate (names.map quote)

end Conform.Sql
