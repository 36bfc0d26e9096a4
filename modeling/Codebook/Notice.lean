/-!
# Notices

Some ways to call the program are kept for those who know them by an earlier name. Each of them says
so when it is used.
-/

namespace Codebook

/-- The ways to call the program that are to go. -/
inductive Retired
  | docstring
  | signature
  | liveFunction
  | liveClass
  | load
  | module
  | outline
  | outlineFunction
  | outlineClass
  deriving DecidableEq, Repr

namespace Retired

/-- The name by which it is called. -/
def name : Retired → String
  | .docstring => "parse_google_docstring"
  | .signature => "get_signature_string"
  | .liveFunction => "inspect_function"
  | .liveClass => "inspect_class"
  | .load => "load_module_from_file"
  | .module => "inspect_module"
  | .outline => "parse_module_with_ast"
  | .outlineFunction => "extract_function_info_from_ast"
  | .outlineClass => "extract_class_info_from_ast"

/-- What is said when it is called. -/
def notice (r : Retired) : String :=
  r.name ++ " is deprecated and will be removed in a future version. " ++
    "Use a PythonExtractor instance instead."

end Retired

end Codebook
