import ResolverGen.Table

/-!
# Go templates

The templates that come with the Go generator: struct fields and accessors of fields, setters,
resolver types and constructors.
-/
namespace ResolverGen.Go

/-- A resolver struct with its accessors, an interface with its conversions, or a scalar with its
decoding. -/
def typeDefault : String :=
  "package \x7b\x7b config.package_name \x7d\x7d\n" ++
  "\x7b% if imports %\x7d\n" ++
  "\n" ++
  "import (\n" ++
  "\x7b% for imp in imports %\x7d\n" ++
  "\t\x7b\x7b imp \x7d\x7d\n" ++
  "\x7b% endfor %\x7d\n" ++
  ")\n" ++
  "\x7b% endif %\x7d\n" ++
  "\x7b% if kind == \"INTERFACE\" %\x7d\n" ++
  "\n" ++
  "\x7b% if type_description and config.add_comments %\x7d\n" ++
  "\x7b\x7b type_description | comment \x7d\x7d\n" ++
  "\x7b% endif %\x7d\n" ++
  "type \x7b\x7b type_name \x7d\x7d interface \x7b\n" ++
  "\x7b% for field in fields %\x7d\n" ++
  "\x7b% if field | trim %\x7d\n" ++
  "\x7b\x7b field | trim | indent(tabs=True) \x7d\x7d\n" ++
  "\x7b% endif %\x7d\n" ++
  "\x7b% endfor %\x7d\n" ++
  "\x7d\n" ++
  "\n" ++
  "// \x7b\x7b type_name | resolver \x7d\x7d wraps a concrete \x7b\x7b type_name \x7d\x7d " ++
  "implementation.\n" ++
  "type \x7b\x7b type_name | resolver \x7d\x7d struct \x7b\n" ++
  "\t\x7b\x7b type_name \x7d\x7d\n" ++
  "\x7d\n" ++
  "\x7b% for possible in possible_types %\x7d\n" ++
  "\n" ++
  "// To\x7b\x7b possible \x7d\x7d returns the \x7b\x7b possible \x7d\x7d behind the " ++
  "interface, if any.\n" ++
  "func (r *\x7b\x7b type_name | resolver \x7d\x7d) To\x7b\x7b possible \x7d\x7d() " ++
  "(*\x7b\x7b possible | resolver \x7d\x7d, bool) \x7b\n" ++
  "\tc, ok := r.\x7b\x7b type_name \x7d\x7d.(*\x7b\x7b possible | resolver \x7d\x7d)\n" ++
  "\treturn c, ok\n" ++
  "\x7d\n" ++
  "\x7b% endfor %\x7d\n" ++
  "\x7b% elif kind == \"SCALAR\" %\x7d\n" ++
  "\n" ++
  "\x7b% if type_description and config.add_comments %\x7d\n" ++
  "\x7b\x7b type_description | comment \x7d\x7d\n" ++
  "\x7b% endif %\x7d\n" ++
  "type \x7b\x7b type_name | resolver \x7d\x7d struct \x7b\n" ++
  "\tvalue interface\x7b\x7d\n" ++
  "\x7d\n" ++
  "\n" ++
  "// ImplementsGraphQLType maps this Go type to the \x7b\x7b type_name \x7d\x7d schema " ++
  "type.\n" ++
  "func (\x7b\x7b type_name | resolver \x7d\x7d) ImplementsGraphQLType(name string) bool " ++
  "\x7b\n" ++
  "\treturn name == \"\x7b\x7b type_name \x7d\x7d\"\n" ++
  "\x7d\n" ++
  "\n" ++
  "// UnmarshalGraphQL stores the input value unchanged.\n" ++
  "func (s *\x7b\x7b type_name | resolver \x7d\x7d) UnmarshalGraphQL(input " ++
  "interface\x7b\x7d) error \x7b\n" ++
  "\ts.value = input\n" ++
  "\treturn nil\n" ++
  "\x7d\n" ++
  "\x7b% else %\x7d\n" ++
  "\n" ++
  "\x7b% if type_description and config.add_comments %\x7d\n" ++
  "\x7b\x7b type_description | comment \x7d\x7d\n" ++
  "\x7b% endif %\x7d\n" ++
  "type \x7b\x7b type_name | resolver \x7d\x7d struct \x7b\n" ++
  "\x7b% for field in fields %\x7d\n" ++
  "\x7b% if field | trim %\x7d\n" ++
  "\x7b\x7b field | trim | indent(tabs=True) \x7d\x7d\n" ++
  "\x7b% endif %\x7d\n" ++
  "\x7b% endfor %\x7d\n" ++
  "\x7d\n" ++
  "\x7b% for method in methods %\x7d\n" ++
  "\x7b% if method | trim %\x7d\n" ++
  "\n" ++
  "\x7b\x7b method | trim \x7d\x7d\n" ++
  "\x7b% endif %\x7d\n" ++
  "\x7b% endfor %\x7d\n" ++
  "\x7b% endif %\x7d\n"

/-- A function that returns an empty resolver. The parameter `name` gives its name. -/
def typeConstructor : String :=
  "\x7b% set func_name = template_config.get(\"name\") or \"New\" ~ type_name | resolver " ++
  "%\x7d\n" ++
  "\n" ++
  "// \x7b\x7b func_name \x7d\x7d returns an empty \x7b\x7b type_name | resolver \x7d\x7d.\n" ++
  "func \x7b\x7b func_name \x7d\x7d() *\x7b\x7b type_name | resolver \x7d\x7d \x7b\n" ++
  "\treturn &\x7b\x7b type_name | resolver \x7d\x7d\x7b\x7d\n" ++
  "\x7d\n"

/-- A struct field, or the method of an interface. -/
def fieldDefault : String :=
  "\x7b% if field_description and config.add_comments %\x7d\n" ++
  "\x7b\x7b field_description | comment \x7d\x7d\n" ++
  "\x7b% endif %\x7d\n" ++
  "\x7b% if field_deprecated and config.add_comments %\x7d\n" ++
  "// Deprecated: \x7b\x7b field_deprecated \x7d\x7d\n" ++
  "\x7b% endif %\x7d\n" ++
  "\x7b% if type_kind == \"INTERFACE\" %\x7d\n" ++
  "\x7b\x7b field_name | capitalize \x7d\x7d() \x7b\x7b field_type \x7d\x7d\n" ++
  "\x7b% else %\x7d\n" ++
  "\x7b\x7b field_name | uncapitalize | go_identifier \x7d\x7d \x7b\x7b field_type \x7d\x7d\n" ++
  "\x7b% endif %\x7d\n"

/-- The accessor of a struct field. -/
def fieldDefaultMethod : String :=
  "\x7b% if type_kind != \"INTERFACE\" %\x7d\n" ++
  "\n" ++
  "// \x7b\x7b method_name | capitalize \x7d\x7d resolves \x7b\x7b type_name " ++
  "\x7d\x7d.\x7b\x7b method_name \x7d\x7d.\n" ++
  "func (r *\x7b\x7b type_name | resolver \x7d\x7d) \x7b\x7b method_name | capitalize " ++
  "\x7d\x7d() \x7b\x7b method_return_type \x7d\x7d \x7b\n" ++
  "\treturn r.\x7b\x7b method_return | uncapitalize | go_identifier \x7d\x7d\n" ++
  "\x7d\n" ++
  "\x7b% endif %\x7d\n"

/-- A setter uses the storage that another variant declares. -/
def fieldSetter : String :=
  "\x7b# setters reuse the storage declared by another variant #\x7d\n"

/-- The method that replaces the value of a struct field. -/
def fieldSetterMethod : String :=
  "\x7b% if type_kind != \"INTERFACE\" %\x7d\n" ++
  "\n" ++
  "// Set\x7b\x7b method_name | capitalize \x7d\x7d replaces the value returned by " ++
  "\x7b\x7b method_name | capitalize \x7d\x7d.\n" ++
  "func (r *\x7b\x7b type_name | resolver \x7d\x7d) Set\x7b\x7b method_name | capitalize " ++
  "\x7d\x7d(value \x7b\x7b method_return_type \x7d\x7d) \x7b\n" ++
  "\tr.\x7b\x7b method_return | uncapitalize | go_identifier \x7d\x7d = value\n" ++
  "\x7d\n" ++
  "\x7b% endif %\x7d\n"

/-- The templates by file name. -/
def packagedTemplates : Table String :=
  [("type/default.go.j2", typeDefault),
    ("type/constructor.go.j2", typeConstructor),
    ("field/default.go.j2", fieldDefault),
    ("field/default.method.go.j2", fieldDefaultMethod),
    ("field/setter.go.j2", fieldSetter),
    ("field/setter.method.go.j2", fieldSetterMethod)]

end ResolverGen.Go
