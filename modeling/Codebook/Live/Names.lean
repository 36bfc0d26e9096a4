/-!
# Names of attributes and modules

The methods of the values that need no class definition, and the names of the modules that come with
the language. A source that uses more of them than is followed here is told apart by these tables
from one that uses a name that does not exist.
-/

namespace Codebook.Live

/-- The public methods and attributes of values, by the name of their class. -/
def valueAttributes : List (String × List String) := [
  ("bool", [
    "as_integer_ratio", "bit_count", "bit_length", "conjugate", "denominator", "from_bytes",
    "imag", "numerator", "real", "to_bytes"]),
  ("bytes", [
    "capitalize", "center", "count", "decode", "endswith", "expandtabs", "find", "fromhex",
    "hex", "index", "isalnum", "isalpha", "isascii", "isdigit", "islower", "isspace", "istitle",
    "isupper", "join", "ljust", "lower", "lstrip", "maketrans", "partition", "removeprefix",
    "removesuffix", "replace", "rfind", "rindex", "rjust", "rpartition", "rsplit", "rstrip",
    "split", "splitlines", "startswith", "strip", "swapcase", "title", "translate", "upper",
    "zfill"]),
  ("complex", [
    "conjugate", "imag", "real"]),
  ("dict", [
    "clear", "copy", "fromkeys", "get", "items", "keys", "pop", "popitem", "setdefault",
    "update", "values"]),
  ("float", [
    "as_integer_ratio", "conjugate", "fromhex", "hex", "imag", "is_integer", "real"]),
  ("frozenset", [
    "copy", "difference", "intersection", "isdisjoint", "issubset", "issuperset",
    "symmetric_difference", "union"]),
  ("int", [
    "as_integer_ratio", "bit_count", "bit_length", "conjugate", "denominator", "from_bytes",
    "imag", "numerator", "real", "to_bytes"]),
  ("list", [
    "append", "clear", "copy", "count", "extend", "index", "insert", "pop", "remove", "reverse",
    "sort"]),
  ("set", [
    "add", "clear", "copy", "difference", "difference_update", "discard", "intersection",
    "intersection_update", "isdisjoint", "issubset", "issuperset", "pop", "remove",
    "symmetric_difference", "symmetric_difference_update", "union", "update"]),
  ("str", [
    "capitalize", "casefold", "center", "count", "encode", "endswith", "expandtabs", "find",
    "format", "format_map", "index", "isalnum", "isalpha", "isascii", "isdecimal", "isdigit",
    "isidentifier", "islower", "isnumeric", "isprintable", "isspace", "istitle", "isupper",
    "join", "ljust", "lower", "lstrip", "maketrans", "partition", "removeprefix", "removesuffix",
    "replace", "rfind", "rindex", "rjust", "rpartition", "rsplit", "rstrip", "split",
    "splitlines", "startswith", "strip", "swapcase", "title", "translate", "upper", "zfill"]),
  ("tuple", [
    "count", "index"]),
  ("type", [
    "mro"]),
  ("BaseException", [
    "add_note", "args", "with_traceback"])]

/-- The modules that come with the language. -/
def standardModules : List String := [
  "__future__", "_abc", "_aix_support", "_ast", "_asyncio", "_bisect", "_blake2", "_bootsubprocess",
  "_bz2", "_codecs", "_codecs_cn", "_codecs_hk", "_codecs_iso2022", "_codecs_jp", "_codecs_kr",
  "_codecs_tw", "_collections", "_collections_abc", "_compat_pickle", "_compression",
  "_contextvars", "_crypt", "_csv", "_ctypes", "_curses", "_curses_panel", "_datetime", "_decimal",
  "_elementtree", "_frozen_importlib", "_frozen_importlib_external", "_functools", "_hashlib",
  "_heapq", "_imp", "_io", "_json", "_locale", "_lsprof", "_lzma", "_markupbase", "_md5",
  "_multibytecodec", "_multiprocessing", "_opcode", "_operator", "_osx_support", "_pickle",
  "_posixshmem", "_posixsubprocess", "_py_abc", "_pydecimal", "_pyio", "_queue", "_random", "_sha1",
  "_sha256", "_sha3", "_sha512", "_signal", "_sitebuiltins", "_socket", "_sqlite3", "_sre", "_ssl",
  "_stat", "_statistics", "_string", "_strptime", "_struct", "_symtable", "_thread",
  "_threading_local", "_tokenize", "_tracemalloc", "_typing", "_uuid", "_warnings", "_weakref",
  "_weakrefset", "_zoneinfo", "abc", "aifc", "argparse", "array", "ast", "asynchat", "asyncio",
  "asyncore", "atexit", "audioop", "base64", "bdb", "binascii", "bisect", "builtins", "bz2",
  "cProfile", "calendar", "cgi", "cgitb", "chunk", "cmath", "cmd", "code", "codecs", "codeop",
  "collections", "colorsys", "compileall", "concurrent", "configparser", "contextlib",
  "contextvars", "copy", "copyreg", "crypt", "csv", "ctypes", "curses", "dataclasses", "datetime",
  "dbm", "decimal", "difflib", "dis", "distutils", "doctest", "email", "encodings", "ensurepip",
  "enum", "errno", "faulthandler", "fcntl", "filecmp", "fileinput", "fnmatch", "fractions",
  "ftplib", "functools", "gc", "genericpath", "getopt", "getpass", "gettext", "glob", "graphlib",
  "grp", "gzip", "hashlib", "heapq", "hmac", "html", "http", "imaplib", "imghdr", "imp",
  "importlib", "inspect", "io", "ipaddress", "itertools", "json", "keyword", "lib2to3", "linecache",
  "locale", "logging", "lzma", "mailbox", "mailcap", "marshal", "math", "mimetypes", "mmap",
  "modulefinder", "multiprocessing", "netrc", "nis", "nntplib", "ntpath", "nturl2path", "numbers",
  "opcode", "operator", "optparse", "os", "ossaudiodev", "pathlib", "pdb", "pickle", "pickletools",
  "pipes", "pkgutil", "platform", "plistlib", "poplib", "posix", "posixpath", "pprint", "profile",
  "pstats", "pty", "pwd", "py_compile", "pyclbr", "pydoc", "pydoc_data", "pyexpat", "queue",
  "quopri", "random", "re", "readline", "reprlib", "resource", "rlcompleter", "runpy", "sched",
  "secrets", "select", "selectors", "shelve", "shlex", "shutil", "signal", "site", "smtpd",
  "smtplib", "sndhdr", "socket", "socketserver", "spwd", "sqlite3", "sre_compile", "sre_constants",
  "sre_parse", "ssl", "stat", "statistics", "string", "stringprep", "struct", "subprocess", "sunau",
  "symtable", "sys", "sysconfig", "syslog", "tabnanny", "tarfile", "telnetlib", "tempfile",
  "termios", "textwrap", "threading", "time", "timeit", "token", "tokenize", "tomllib", "trace",
  "traceback", "tracemalloc", "tty", "types", "typing", "unicodedata", "unittest", "urllib", "uu",
  "uuid", "venv", "warnings", "wave", "weakref", "webbrowser", "wsgiref", "xdrlib", "xml", "xmlrpc",
  "zipapp", "zipfile", "zipimport", "zlib", "zoneinfo"]

end Codebook.Live
