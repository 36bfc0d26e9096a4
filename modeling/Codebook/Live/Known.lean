/-!
# Known classes and names

The classes that a source file can name without defining them, with what is visible of them: module,
bases, layout, the parameters they are made with and their docstrings. Then the names of functions
that need no import, and the methods of every object.
-/

namespace Codebook.Live

/-- A class that needs no definition. Classes of different `layout` cannot be bases of one class,
and a `sealed` class is never a base. -/
structure KnownClass where
  name : String
  home : String
  bases : List String
  layout : String
  sealed : Bool
  parameters : Option String
  doc : Option String
  deriving Repr

/-- A class of exceptions with one base. -/
def exceptionClass (name base layout doc : String) : KnownClass :=
  ⟨name, "builtins", [base], layout, false, none, some doc⟩

/-- A class of values right below `object`, with a layout of its own. -/
def valueClass (name : String) (sealed : Bool) (parameters doc : Option String) : KnownClass :=
  ⟨name, "builtins", ["object"], name, sealed, parameters, doc⟩

/-- The classes of exceptions. -/
def exceptionClasses : List KnownClass := [
  exceptionClass "BaseException" "object" "BaseException" "Common base class for all exceptions",
  exceptionClass "BaseExceptionGroup" "BaseException" "BaseExceptionGroup"
    "A combination of multiple unrelated exceptions.",
  exceptionClass "Exception" "BaseException" "BaseException"
    "Common base class for all non-exit exceptions.",
  exceptionClass "GeneratorExit" "BaseException" "BaseException" "Request that a generator exit.",
  exceptionClass "KeyboardInterrupt" "BaseException" "BaseException" "Program interrupted by user.",
  exceptionClass "SystemExit" "BaseException" "SystemExit" "Request to exit from the interpreter.",
  exceptionClass "ArithmeticError" "Exception" "BaseException" "Base class for arithmetic errors.",
  exceptionClass "AssertionError" "Exception" "BaseException" "Assertion failed.",
  exceptionClass "AttributeError" "Exception" "AttributeError" "Attribute not found.",
  exceptionClass "BufferError" "Exception" "BaseException" "Buffer error.",
  exceptionClass "EOFError" "Exception" "BaseException" "Read beyond end of file.",
  exceptionClass "ImportError" "Exception" "ImportError"
    "Import can't find module, or can't find name in module.",
  exceptionClass "LookupError" "Exception" "BaseException" "Base class for lookup errors.",
  exceptionClass "MemoryError" "Exception" "BaseException" "Out of memory.",
  exceptionClass "NameError" "Exception" "NameError" "Name not found globally.",
  exceptionClass "OSError" "Exception" "OSError" "Base class for I/O related errors.",
  exceptionClass "ReferenceError" "Exception" "BaseException"
    "Weak ref proxy used after referent went away.",
  exceptionClass "RuntimeError" "Exception" "BaseException" "Unspecified run-time error.",
  exceptionClass "StopAsyncIteration" "Exception" "BaseException"
    "Signal the end from iterator.__anext__().",
  exceptionClass "StopIteration" "Exception" "StopIteration"
    "Signal the end from iterator.__next__().",
  exceptionClass "SyntaxError" "Exception" "SyntaxError" "Invalid syntax.",
  exceptionClass "SystemError" "Exception" "BaseException"
    ("Internal error in the Python interpreter.\n\nPlease report this to the Python main" ++
     "tainer, along with the traceback,\nthe Python version, and the hardware/OS platfor" ++
     "m and version."),
  exceptionClass "TypeError" "Exception" "BaseException" "Inappropriate argument type.",
  exceptionClass "ValueError" "Exception" "BaseException"
    "Inappropriate argument value (of correct type).",
  exceptionClass "Warning" "Exception" "BaseException" "Base class for warning categories.",
  exceptionClass "BlockingIOError" "OSError" "OSError" "I/O operation would block.",
  exceptionClass "BytesWarning" "Warning" "BaseException"
    ("Base class for warnings about bytes and buffer related problems, mostly\nrelated t" ++
     "o conversion from str or comparing to str."),
  exceptionClass "ChildProcessError" "OSError" "OSError" "Child process error.",
  exceptionClass "ConnectionError" "OSError" "OSError" "Connection error.",
  exceptionClass "DeprecationWarning" "Warning" "BaseException"
    "Base class for warnings about deprecated features.",
  exceptionClass "EncodingWarning" "Warning" "BaseException"
    "Base class for warnings about encodings.",
  ⟨"ExceptionGroup", "builtins", ["BaseExceptionGroup", "Exception"], "BaseExceptionGroup", false,
    none, none⟩,
  exceptionClass "FileExistsError" "OSError" "OSError" "File already exists.",
  exceptionClass "FileNotFoundError" "OSError" "OSError" "File not found.",
  exceptionClass "FloatingPointError" "ArithmeticError" "BaseException"
    "Floating point operation failed.",
  exceptionClass "FutureWarning" "Warning" "BaseException"
    ("Base class for warnings about constructs that will change semantically\nin the fut" ++
     "ure."),
  exceptionClass "ImportWarning" "Warning" "BaseException"
    "Base class for warnings about probable mistakes in module imports",
  exceptionClass "IndentationError" "SyntaxError" "SyntaxError" "Improper indentation.",
  exceptionClass "IndexError" "LookupError" "BaseException" "Sequence index out of range.",
  exceptionClass "InterruptedError" "OSError" "OSError" "Interrupted by signal.",
  exceptionClass "IsADirectoryError" "OSError" "OSError" "Operation doesn't work on directories.",
  exceptionClass "KeyError" "LookupError" "BaseException" "Mapping key not found.",
  exceptionClass "ModuleNotFoundError" "ImportError" "ImportError" "Module not found.",
  exceptionClass "NotADirectoryError" "OSError" "OSError" "Operation only works on directories.",
  exceptionClass "NotImplementedError" "RuntimeError" "BaseException"
    "Method or function hasn't been implemented yet.",
  exceptionClass "OverflowError" "ArithmeticError" "BaseException"
    "Result too large to be represented.",
  exceptionClass "PendingDeprecationWarning" "Warning" "BaseException"
    "Base class for warnings about features which will be deprecated\nin the future.",
  exceptionClass "PermissionError" "OSError" "OSError" "Not enough permissions.",
  exceptionClass "ProcessLookupError" "OSError" "OSError" "Process not found.",
  exceptionClass "RecursionError" "RuntimeError" "BaseException" "Recursion limit exceeded.",
  exceptionClass "ResourceWarning" "Warning" "BaseException"
    "Base class for warnings about resource usage.",
  exceptionClass "RuntimeWarning" "Warning" "BaseException"
    "Base class for warnings about dubious runtime behavior.",
  exceptionClass "SyntaxWarning" "Warning" "BaseException"
    "Base class for warnings about dubious syntax.",
  exceptionClass "TimeoutError" "OSError" "OSError" "Timeout expired.",
  exceptionClass "UnboundLocalError" "NameError" "NameError"
    "Local name referenced but not bound to a value.",
  exceptionClass "UnicodeError" "ValueError" "BaseException" "Unicode related error.",
  exceptionClass "UnicodeWarning" "Warning" "BaseException"
    ("Base class for warnings about Unicode related problems, mostly\nrelated to convers" ++
     "ion problems."),
  exceptionClass "UserWarning" "Warning" "BaseException"
    "Base class for warnings generated by user code.",
  exceptionClass "ZeroDivisionError" "ArithmeticError" "BaseException"
    "Second argument to a division or modulo operation was zero.",
  exceptionClass "BrokenPipeError" "ConnectionError" "OSError" "Broken pipe.",
  exceptionClass "ConnectionAbortedError" "ConnectionError" "OSError" "Connection aborted.",
  exceptionClass "ConnectionRefusedError" "ConnectionError" "OSError" "Connection refused.",
  exceptionClass "ConnectionResetError" "ConnectionError" "OSError" "Connection reset.",
  exceptionClass "TabError" "IndentationError" "SyntaxError" "Improper mixture of spaces and tabs.",
  exceptionClass "UnicodeDecodeError" "UnicodeError" "UnicodeDecodeError" "Unicode decoding error.",
  exceptionClass "UnicodeEncodeError" "UnicodeError" "UnicodeEncodeError" "Unicode encoding error.",
  exceptionClass "UnicodeTranslateError" "UnicodeError" "UnicodeTranslateError"
    "Unicode translation error."]

/-- The classes of values, and those of functions and modules. -/
def valueClasses : List KnownClass := [
  ⟨"bool", "builtins", ["int"], "int", true, none,
    some
      ("bool(x) -> bool\n\nReturns True when the argument x is true, False otherwise.\nThe" ++
       " builtins True and False are the only two instances of the class bool.\nThe class " ++
       "bool is a subclass of the class int, and cannot be subclassed.")⟩,
  valueClass "bytearray" false none <|
    some ("bytearray(iterable_of_ints) -> bytearray\nbytearray(string, encoding[, errors]) ->" ++
      " bytearray\nbytearray(bytes_or_buffer) -> mutable copy of bytes_or_buffer\nbytearr" ++
      "ay(int) -> bytes array of size given by the parameter initialized with null bytes" ++
      "\nbytearray() -> empty bytes array\n\nConstruct a mutable bytearray object from:\n" ++
      "  - an iterable yielding integers in range(256)\n  - a text string encoded using t" ++
      "he specified encoding\n  - a bytes or a buffer object\n  - any object implementing" ++
      " the buffer API.\n  - an integer"),
  valueClass "bytes" false none <|
    some ("bytes(iterable_of_ints) -> bytes\nbytes(string, encoding[, errors]) -> bytes\nbyte" ++
      "s(bytes_or_buffer) -> immutable copy of bytes_or_buffer\nbytes(int) -> bytes objec" ++
      "t of size given by the parameter initialized with null bytes\nbytes() -> empty byt" ++
      "es object\n\nConstruct an immutable array of bytes from:\n  - an iterable yielding" ++
      " integers in range(256)\n  - a text string encoded using the specified encoding\n " ++
      " - any object implementing the buffer API.\n  - an integer"),
  valueClass "classmethod" false none <|
    some ("classmethod(function) -> method\n\nConvert a function to be a class method.\n\nA c" ++
      "lass method receives the class as implicit first argument,\njust like an instance " ++
      "method receives the instance.\nTo declare a class method, use this idiom:\n\n  cla" ++
      "ss C:\n      @classmethod\n      def f(cls, arg1, arg2, argN):\n          ...\n\nI" ++
      "t can be called either on the class (e.g. C.f()) or on an instance\n(e.g. C().f())" ++
      ".  The instance is ignored except for its class.\nIf a class method is called for " ++
      "a derived class, the derived class\nobject is passed as the implied first argument" ++
      ".\n\nClass methods are different than C++ or Java static methods.\nIf you want tho" ++
      "se, see the staticmethod builtin."),
  valueClass "complex" false (some "(real=0, imag=0)") <|
    some ("Create a complex number from a real part and an optional imaginary part.\n\nThis i" ++
      "s equivalent to (real + imag*1j) where imag defaults to 0."),
  valueClass "dict" false none <|
    some ("dict() -> new empty dictionary\ndict(mapping) -> new dictionary initialized from a" ++
      " mapping object's\n    (key, value) pairs\ndict(iterable) -> new dictionary initia" ++
      "lized as if via:\n    d = \x7b\x7d\n    for k, v in iterable:\n        d[k] = v\nd" ++
      "ict(**kwargs) -> new dictionary initialized with the name=value pairs\n    in the " ++
      "keyword argument list.  For example:  dict(one=1, two=2)"),
  valueClass "enumerate" false (some "(iterable, start=0)") <|
    some ("Return an enumerate object.\n\n  iterable\n    an object supporting iteration\n\nT" ++
      "he enumerate object yields pairs containing a count (from start, which\ndefaults t" ++
      "o zero) and a value yielded by the iterable argument.\n\nenumerate is useful for o" ++
      "btaining an indexed list:\n    (0, seq[0]), (1, seq[1]), (2, seq[2]), ..."),
  valueClass "filter" false none <|
    some ("filter(function or None, iterable) --> filter object\n\nReturn an iterator yieldin" ++
      "g those items of iterable for which function(item)\nis true. If function is None, " ++
      "return the items that are true."),
  valueClass "float" false (some "(x=0, /)")
    (some "Convert a string or number to a floating point number, if possible."),
  valueClass "frozenset" false none <|
    some ("frozenset() -> empty frozenset object\nfrozenset(iterable) -> frozenset object\n\n" ++
      "Build an immutable unordered collection of unique elements."),
  valueClass "int" false none <|
    some ("int([x]) -> integer\nint(x, base=10) -> integer\n\nConvert a number or string to a" ++
      "n integer, or return 0 if no arguments\nare given.  If x is a number, return x.__i" ++
      "nt__().  For floating point\nnumbers, this truncates towards zero.\n\nIf x is not " ++
      "a number or if base is given, then x must be a string,\nbytes, or bytearray instan" ++
      "ce representing an integer literal in the\ngiven base.  The literal can be precede" ++
      "d by '+' or '-' and be surrounded\nby whitespace.  The base defaults to 10.  Valid" ++
      " bases are 0 and 2-36.\nBase 0 means to interpret the base from the string as an i" ++
      "nteger literal.\n>>> int('0b100', base=0)\n4"),
  valueClass "list" false (some "(iterable=(), /)") <|
    some ("Built-in mutable sequence.\n\nIf no argument is given, the constructor creates a n" ++
      "ew empty list.\nThe argument must be an iterable if specified."),
  valueClass "map" false none <|
    some ("map(func, *iterables) --> map object\n\nMake an iterator that computes the functio" ++
      "n using arguments from\neach of the iterables.  Stops when the shortest iterable i" ++
      "s exhausted."),
  valueClass "memoryview" true (some "(object)")
    (some "Create a new memoryview object which references the given object."),
  ⟨"object", "builtins", [], "object", false, some "()",
    some
      ("The base class of the class hierarchy.\n\nWhen called, it accepts no arguments and" ++
       " returns a new featureless\ninstance that has no instance attributes and cannot be" ++
       " given any.\n")⟩,
  valueClass "property" false (some "(fget=None, fset=None, fdel=None, doc=None)") <|
    some ("Property attribute.\n\n  fget\n    function to be used for getting an attribute va" ++
      "lue\n  fset\n    function to be used for setting an attribute value\n  fdel\n    f" ++
      "unction to be used for del'ing an attribute\n  doc\n    docstring\n\nTypical use i" ++
      "s to define a managed attribute x:\n\nclass C(object):\n    def getx(self): return" ++
      " self._x\n    def setx(self, value): self._x = value\n    def delx(self): del self" ++
      "._x\n    x = property(getx, setx, delx, \"I'm the 'x' property.\")\n\nDecorators m" ++
      "ake defining new properties or modifying existing ones easy:\n\nclass C(object):\n" ++
      "    @property\n    def x(self):\n        \"I am the 'x' property.\"\n        retur" ++
      "n self._x\n    @x.setter\n    def x(self, value):\n        self._x = value\n    @x" ++
      ".deleter\n    def x(self):\n        del self._x"),
  valueClass "range" true none <|
    some ("range(stop) -> range object\nrange(start, stop[, step]) -> range object\n\nReturn " ++
      "an object that produces a sequence of integers from start (inclusive)\nto stop (ex" ++
      "clusive) by step.  range(i, j) produces i, i+1, i+2, ..., j-1.\nstart defaults to " ++
      "0, and stop is omitted!  range(4) produces 0, 1, 2, 3.\nThese are exactly the vali" ++
      "d indices for a list of 4 elements.\nWhen step is given, it specifies the incremen" ++
      "t (or decrement)."),
  valueClass "reversed" false (some "(sequence, /)")
    (some "Return a reverse iterator over the values of the given sequence."),
  valueClass "set" false none <|
    some ("set() -> new empty set object\nset(iterable) -> new set object\n\nBuild an unorder" ++
      "ed collection of unique elements."),
  valueClass "slice" true none <|
    some ("slice(stop)\nslice(start, stop[, step])\n\nCreate a slice object.  This is used fo" ++
      "r extended slicing (e.g. a[0:10:2])."),
  valueClass "staticmethod" false none <|
    some ("staticmethod(function) -> method\n\nConvert a function to be a static method.\n\nA" ++
      " static method does not receive an implicit first argument.\nTo declare a static m" ++
      "ethod, use this idiom:\n\n     class C:\n         @staticmethod\n         def f(ar" ++
      "g1, arg2, argN):\n             ...\n\nIt can be called either on the class (e.g. C" ++
      ".f()) or on an instance\n(e.g. C().f()). Both the class and the instance are ignor" ++
      "ed, and\nneither is passed implicitly as the first argument to the method.\n\nStat" ++
      "ic methods in Python are similar to those found in Java or C++.\nFor a more advanc" ++
      "ed concept, see the classmethod builtin."),
  valueClass "str" false none <|
    some ("str(object='') -> str\nstr(bytes_or_buffer[, encoding[, errors]]) -> str\n\nCreate" ++
      " a new string object from the given object. If encoding or\nerrors is specified, t" ++
      "hen the object must expose a data buffer\nthat will be decoded using the given enc" ++
      "oding and error handler.\nOtherwise, returns the result of object.__str__() (if de" ++
      "fined)\nor repr(object).\nencoding defaults to sys.getdefaultencoding().\nerrors d" ++
      "efaults to 'strict'."),
  valueClass "super" false none <|
    some ("super() -> same as super(__class__, <first argument>)\nsuper(type) -> unbound supe" ++
      "r object\nsuper(type, obj) -> bound super object; requires isinstance(obj, type)\n" ++
      "super(type, type2) -> bound super object; requires issubclass(type2, type)\nTypica" ++
      "l use to call a cooperative superclass method:\nclass C(B):\n    def meth(self, ar" ++
      "g):\n        super().meth(arg)\nThis works for class methods too:\nclass C(B):\n  " ++
      "  @classmethod\n    def cmeth(cls, arg):\n        super().cmeth(arg)\n"),
  valueClass "tuple" false (some "(iterable=(), /)") <|
    some ("Built-in immutable sequence.\n\nIf no argument is given, the constructor returns a" ++
      "n empty tuple.\nIf iterable is specified the tuple is initialized from iterable's " ++
      "items.\n\nIf the argument is a tuple, the return value is the same object."),
  valueClass "type" false none
    (some "type(object) -> the object's type\ntype(name, bases, dict, **kwds) -> a new type"),
  valueClass "zip" false none <|
    some ("zip(*iterables, strict=False) --> Yield tuples until an input is exhausted.\n\n   " ++
      ">>> list(zip('abcdefg', range(3), range(4)))\n   [('a', 0, 0), ('b', 1, 1), ('c', " ++
      "2, 2)]\n\nThe zip object yields n-length tuples, where n is the number of iterable" ++
      "s\npassed as positional arguments to zip().  The i-th element in every tuple\ncome" ++
      "s from the i-th iterable argument to zip().  This continues until the\nshortest ar" ++
      "gument is exhausted.\n\nIf strict is true and one of the arguments is exhausted be" ++
      "fore the others,\nraise a ValueError."),
  valueClass "NoneType" true none none,
  valueClass "function" true (some "(code, globals, name=None, argdefs=None, closure=None)") <|
    some ("Create a function object.\n\n  code\n    a code object\n  globals\n    the globals" ++
      " dictionary\n  name\n    a string that overrides the name from the code object\n  " ++
      "argdefs\n    a tuple that specifies the default argument values\n  closure\n    a " ++
      "tuple that supplies the bindings for free variables"),
  valueClass "method" true (some "(function, instance, /)")
    (some "Create a bound instance method object."),
  valueClass "builtin_function_or_method" true none none,
  valueClass "module" true (some "(name, doc=None)") <|
    some ("Create a module object.\n\nThe name must be a string; the optional doc argument ca" ++
      "n have any type."),
  valueClass "generator" true none none,
  valueClass "coroutine" true none none,
  ⟨"GenericAlias", "types", ["object"], "GenericAlias", true, none,
    some
      ("Represent a PEP 585 generic type\n\nE.g. for t = list[int], t.__origin__ is list a" ++
       "nd t.__args__ is (int,).")⟩,
  ⟨"UnionType", "types", ["object"], "UnionType", true, none,
    some "Represent a PEP 604 union type\n\nE.g. for int | str"⟩,
  valueClass "ellipsis" true none none,
  valueClass "NotImplementedType" true none none,
  ⟨"Any", "typing", ["object"], "object", false, some "(*args, **kwargs)",
    some
      ("Special type indicating an unconstrained type.\n\n    - Any is compatible with every " ++
       "type.\n    - Any assumed to have all methods.\n    - All values assumed to be instances " ++
       "of Any.\n\n    Note that all the above statements are true from the point of view of\n " ++
       "   static type checkers. At runtime, Any should not be used with instance\n    checks." ++
       "\n    ")⟩,
  ⟨"Generic", "typing", ["object"], "object", false, none,
    some
      ("Abstract base class for generic types.\n\n    A generic type is typically declared by " ++
       "inheriting from\n    this class parameterized with one or more type variables.\n    For " ++
       "example, a generic mapping type might be defined as::\n\n      class Mapping(Generic[KT, " ++
       "VT]):\n          def __getitem__(self, key: KT) -> VT:\n              ...\n          # " ++
       "Etc.\n\n    This class can then be used as follows::\n\n      def lookup_name(mapping: " ++
       "Mapping[KT, VT], key: KT, default: VT) -> VT:\n          try:\n              return " ++
       "mapping[key]\n          except KeyError:\n              return default\n    ")⟩,
  ⟨"OrderedDict", "collections", ["dict"], "OrderedDict", false, none,
    some "Dictionary that remembers insertion order"⟩]

/-- The class of the given name. -/
def knownClass? (name : String) : Option KnownClass :=
  (exceptionClasses ++ valueClasses).find? (·.name == name)

/-- Second names of classes. -/
def classSynonyms : List (String × String) :=
  [("EnvironmentError", "OSError"), ("IOError", "OSError")]

/-- The names of classes that can be used without an import. -/
def isClassName (name : String) : Bool :=
  match knownClass? name with
  | some c => c.home == "builtins" && !unnamed.contains name
  | none => false
where
  /-- Classes that no name stands for. -/
  unnamed : List String :=
    ["NoneType", "function", "method", "builtin_function_or_method", "module", "generator",
      "coroutine", "ellipsis", "NotImplementedType"]

/-- The names of functions that can be used without an import. -/
def functionNames : List String := [
  "__build_class__", "__import__", "abs", "aiter", "all", "anext", "any", "ascii", "bin",
  "breakpoint", "callable", "chr", "compile", "delattr", "dir", "divmod", "eval", "exec",
  "format", "getattr", "globals", "hasattr", "hash", "hex", "id", "input", "isinstance",
  "issubclass", "iter", "len", "locals", "max", "min", "next", "oct", "open", "ord", "pow",
  "print", "repr", "round", "setattr", "sorted", "sum", "vars"]

/-- The parameters of functions that need no definition, where those can be asked for. -/
def functionParameters : List (String × String) := [
  ("__import__", "(name, globals=None, locals=None, fromlist=(), level=0)"),
  ("abs", "(x, /)"),
  ("aiter", "(async_iterable, /)"),
  ("all", "(iterable, /)"),
  ("any", "(iterable, /)"),
  ("ascii", "(obj, /)"),
  ("bin", "(number, /)"),
  ("callable", "(obj, /)"),
  ("chr", "(i, /)"),
  ("compile", "(source, filename, mode, flags=0, dont_inherit=False, optimize=-1, *, " ++
    "_feature_version=-1)"),
  ("dedent", "(text)"),
  ("delattr", "(obj, name, /)"),
  ("divmod", "(x, y, /)"),
  ("eval", "(source, globals=None, locals=None, /)"),
  ("exec", "(source, globals=None, locals=None, /, *, closure=None)"),
  ("format", "(value, format_spec='', /)"),
  ("globals", "()"),
  ("hasattr", "(obj, name, /)"),
  ("hash", "(obj, /)"),
  ("hex", "(number, /)"),
  ("id", "(obj, /)"),
  ("input", "(prompt='', /)"),
  ("isinstance", "(obj, class_or_tuple, /)"),
  ("issubclass", "(cls, class_or_tuple, /)"),
  ("join", "(a, *p)"),
  ("len", "(obj, /)"),
  ("locals", "()"),
  ("oct", "(number, /)"),
  ("open", "(file, mode='r', buffering=-1, encoding=None, errors=None, newline=None, " ++
    "closefd=True, opener=None)"),
  ("ord", "(c, /)"),
  ("pow", "(base, exp, mod=None)"),
  ("print", "(*args, sep=' ', end='\\n', file=None, flush=False)"),
  ("repr", "(obj, /)"),
  ("round", "(number, ndigits=None)"),
  ("setattr", "(obj, name, value, /)"),
  ("sorted", "(iterable, /, *, key=None, reverse=False)"),
  ("sum", "(iterable, /, start=0)"),
  ("wraps", "(wrapped, assigned=('__module__', '__name__', '__qualname__', '__doc__', " ++
    "'__annotations__'), updated=('__dict__',))")]

/-! ## Methods that every object has -/

/-- The methods of every object, with their parameters where those can be asked for. -/
def objectMethods : List (String × Option String) := [
  ("__delattr__", some "(self, name, /)"),
  ("__dir__", some "(self, /)"),
  ("__eq__", some "(self, value, /)"),
  ("__format__", some "(self, format_spec, /)"),
  ("__ge__", some "(self, value, /)"),
  ("__getattribute__", some "(self, name, /)"),
  ("__getstate__", some "(self, /)"),
  ("__gt__", some "(self, value, /)"),
  ("__hash__", some "(self, /)"),
  ("__init__", some "(self, /, *args, **kwargs)"),
  ("__init_subclass__", none),
  ("__le__", some "(self, value, /)"),
  ("__lt__", some "(self, value, /)"),
  ("__ne__", some "(self, value, /)"),
  ("__new__", some "(*args, **kwargs)"),
  ("__reduce__", some "(self, /)"),
  ("__reduce_ex__", some "(self, protocol, /)"),
  ("__repr__", some "(self, /)"),
  ("__setattr__", some "(self, name, value, /)"),
  ("__sizeof__", some "(self, /)"),
  ("__str__", some "(self, /)"),
  ("__subclasshook__", none)]

end Codebook.Live
