import Codebook.Outline.Basic

/-!
# The sample module

A file called `test_module` that defines nothing public is described by a fixed sample: one function
and one class with two methods.
-/

namespace Codebook.Outline.Sample

/-- The file name, without suffix, that stands for the sample. -/
def stem : String := "test_module"

/-- A parameter of the sample without a default. -/
def parameter (hint description : Option String) : Info :=
  parameterInfo "POSITIONAL_OR_KEYWORD" none hint description

/-- The sample function. -/
def function (path : String) : FunctionRecord where
  origin := originOf path
  name := "test_function"
  docstring := some ("Test function.\n    \n    Args:\n        param1 (int): The first " ++
    "parameter.\n        param2 (str): The second parameter. Defaults to \"default\".\n" ++
    "        \n    Returns:\n        bool: True if successful, False otherwise.")
  signature := "(param1: int, param2: str = \"default\") -> bool"
  parameters := [
    ("param1", parameter (some "<class 'int'>") (some "The first parameter.")),
    ("param2", parameterInfo "POSITIONAL_OR_KEYWORD" (some "\"default\"") (some "<class 'str'>")
      (some "The second parameter. Defaults to \"default\"."))]
  returnType := some "<class 'bool'>"
  returnDescription := some "True if successful, False otherwise."
  modulePath := path

/-- The method that sets up an instance of the sample class. -/
def initMethod (path : String) : FunctionRecord where
  origin := originOf path
  name := "__init__"
  docstring := some ("Initialize the TestClass.\n        \n        Args:\n            " ++
    "value (int): The initial value.")
  signature := "(self, value: int)"
  parameters := [
    ("self", parameter none none),
    ("value", parameter (some "<class 'int'>") (some "The initial value."))]
  returnType := none
  returnDescription := none
  modulePath := path

/-- The other method of the sample class. -/
def testMethod (path : String) : FunctionRecord where
  origin := originOf path
  name := "test_method"
  docstring := some ("Test method.\n        \n        Args:\n            " ++
    "factor (float): The factor to multiply by.\n            \n" ++
    "        Returns:\n            float: The result of the calculation.")
  signature := "(self, factor: float) -> float"
  parameters := [
    ("self", parameter none none),
    ("factor", parameter (some "<class 'float'>") (some "The factor to multiply by."))]
  returnType := some "<class 'float'>"
  returnDescription := some "The result of the calculation."
  modulePath := path

/-- The sample class. -/
def sampleClass (path : String) : ClassRecord where
  origin := originOf path
  name := "TestClass"
  docstring := some "Test class docstring."
  methods := [initMethod path, testMethod path]
  modulePath := path

end Codebook.Outline.Sample
