import LiveSketch.Reference.Resolver

/-!
# What is installed

The interpreter at hand: the names that it provides, and the modules that it finds.
-/

namespace LiveSketch.Script

def builtinNames : List String :=
  ["ArithmeticError", "AssertionError", "AttributeError", "BaseException", "BaseExceptionGroup",
    "BlockingIOError", "BrokenPipeError", "BufferError", "BytesWarning", "ChildProcessError",
    "ConnectionAbortedError", "ConnectionError", "ConnectionRefusedError", "ConnectionResetError",
    "DeprecationWarning", "EOFError", "Ellipsis", "EncodingWarning", "EnvironmentError",
    "Exception", "ExceptionGroup", "False", "FileExistsError", "FileNotFoundError",
    "FloatingPointError", "FutureWarning", "GeneratorExit", "IOError", "ImportError",
    "ImportWarning", "IndentationError", "IndexError", "InterruptedError", "IsADirectoryError",
    "KeyError", "KeyboardInterrupt", "LookupError", "MemoryError", "ModuleNotFoundError",
    "NameError", "None", "NotADirectoryError", "NotImplemented", "NotImplementedError", "OSError",
    "OverflowError", "PendingDeprecationWarning", "PermissionError", "ProcessLookupError",
    "RecursionError", "ReferenceError", "ResourceWarning", "RuntimeError", "RuntimeWarning",
    "StopAsyncIteration", "StopIteration", "SyntaxError", "SyntaxWarning", "SystemError",
    "SystemExit", "TabError", "TimeoutError", "True", "TypeError", "UnboundLocalError",
    "UnicodeDecodeError", "UnicodeEncodeError", "UnicodeError", "UnicodeTranslateError",
    "UnicodeWarning", "UserWarning", "ValueError", "Warning", "ZeroDivisionError",
    "__build_class__", "__debug__", "__doc__", "__import__", "__loader__", "__name__",
    "__package__", "__spec__", "abs", "aiter", "all", "anext", "any", "ascii", "bin", "bool",
    "breakpoint", "bytearray", "bytes", "callable", "chr", "classmethod", "compile", "complex",
    "copyright", "credits", "delattr", "dict", "dir", "divmod", "enumerate", "eval", "exec", "exit",
    "filter", "float", "format", "frozenset", "getattr", "globals", "hasattr", "hash", "help",
    "hex", "id", "input", "int", "isinstance", "issubclass", "iter", "len", "license", "list",
    "locals", "map", "max", "memoryview", "min", "next", "object", "oct", "open", "ord", "pow",
    "print", "property", "quit", "range", "repr", "reversed", "round", "set", "setattr", "slice",
    "sorted", "staticmethod", "str", "sum", "super", "tuple", "type", "vars", "zip"]

/-- Modules of the library, by the names they are asked for. -/
def libraryModules : List String :=
  ["abc", "argparse", "array", "ast", "asyncio", "base64", "binascii", "bisect", "calendar",
    "codecs", "collections", "collections.abc", "concurrent.futures", "contextlib", "copy", "csv",
    "ctypes", "datetime", "decimal", "difflib", "dis", "email", "errno", "fractions", "gc", "glob",
    "gzip", "hashlib", "heapq", "hmac", "html", "http", "importlib", "inspect", "io", "ipaddress",
    "itertools", "json", "keyword", "linecache", "locale", "logging", "marshal", "multiprocessing",
    "numbers", "os", "pathlib", "pickle", "platform", "pprint", "queue", "re", "secrets", "select",
    "shutil", "signal", "socket", "sqlite3", "ssl", "string", "struct", "subprocess", "sys",
    "tempfile", "textwrap", "threading", "time", "timeit", "token", "tokenize", "traceback",
    "types", "unicodedata", "unittest", "urllib", "urllib.parse", "uuid", "warnings", "weakref",
    "xml", "zipfile", "zlib"]

/-- The table of the modules that scripts could be allowed, all of them loaded. -/
def installed : LoadedTable :=
  (defaultAllowed ++ defaultExtensions ++ libraryModules).map fun n => (n, some ⟨n, n, []⟩)

end LiveSketch.Script
