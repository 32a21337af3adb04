import RecordBridge.Guest.Object

namespace RecordBridge.Guest

abbrev Namespace := List (String × Object)

-- Names known everywhere, in the order in which the interpreter lists them.
def builtinNames : List String := [
  "__name__", "__doc__", "__package__", "__loader__", "__spec__", "__build_class__", "__import__",
  "abs", "all", "any", "ascii", "bin", "breakpoint", "callable", "chr", "compile", "delattr",
  "dir", "divmod", "eval", "exec", "format", "getattr", "globals", "hasattr", "hash", "hex", "id",
  "input", "isinstance", "issubclass", "iter", "aiter", "len", "locals", "max", "min", "next",
  "anext", "oct", "ord", "pow", "print", "repr", "round", "setattr", "sorted", "sum", "vars",
  "None", "Ellipsis", "NotImplemented", "False", "True", "bool", "memoryview", "bytearray",
  "bytes", "classmethod", "complex", "dict", "enumerate", "filter", "float", "frozenset",
  "property", "int", "list", "map", "object", "range", "reversed", "set", "slice", "staticmethod",
  "str", "super", "tuple", "type", "zip", "__debug__", "BaseException", "BaseExceptionGroup",
  "Exception", "GeneratorExit", "KeyboardInterrupt", "SystemExit", "ArithmeticError",
  "AssertionError", "AttributeError", "BufferError", "EOFError", "ImportError", "LookupError",
  "MemoryError", "NameError", "OSError", "ReferenceError", "RuntimeError", "StopAsyncIteration",
  "StopIteration", "SyntaxError", "SystemError", "TypeError", "ValueError", "Warning",
  "FloatingPointError", "OverflowError", "ZeroDivisionError", "BytesWarning", "DeprecationWarning",
  "EncodingWarning", "FutureWarning", "ImportWarning", "PendingDeprecationWarning",
  "ResourceWarning", "RuntimeWarning", "SyntaxWarning", "UnicodeWarning", "UserWarning",
  "BlockingIOError", "ChildProcessError", "ConnectionError", "FileExistsError",
  "FileNotFoundError", "InterruptedError", "IsADirectoryError", "NotADirectoryError",
  "PermissionError", "ProcessLookupError", "TimeoutError", "IndentationError", "IndexError",
  "KeyError", "ModuleNotFoundError", "NotImplementedError", "RecursionError", "UnboundLocalError",
  "UnicodeError", "BrokenPipeError", "ConnectionAbortedError", "ConnectionRefusedError",
  "ConnectionResetError", "TabError", "UnicodeDecodeError", "UnicodeEncodeError",
  "UnicodeTranslateError", "ExceptionGroup", "EnvironmentError", "IOError", "open", "quit", "exit",
  "copyright", "credits", "license", "help"]

structure Library where
  name : String
  bindings : Namespace
  -- Found by its file and not only by its name.
  hasFile : Bool

namespace Library

-- What every module of the library has. Those without a file are found by a class that knows them.
def common (name package : String) (origin : Object) : Namespace := [
  ("__name__", .ofString name), ("__doc__", .thing "str"), ("__package__", .ofString package),
  ("__loader__", .classRef .importer "_frozen_importlib"), ("__spec__", origin)]

def builtin (name : String) : Object := .moduleSpec (.ofString name) false

def all : List Library := [
  ⟨"builtins", common "builtins" "" (builtin "built-in"), false⟩,
  ⟨"json", common "json" "json" (.thing "ModuleSpec") ++
    [("__path__", .list [.thing "str"]), ("dumps", .function .dumps "json")], true⟩,
  ⟨"os", common "os" "" (builtin "frozen"), true⟩,
  ⟨"sys", common "sys" "" (builtin "built-in"), false⟩,
  ⟨"zlib", common "zlib" "" (builtin "built-in") ++ [("crc32", .function .checksum "zlib")], false⟩]

def names : List String := all.map (·.name)

def modules : List (String × Namespace) := all.map fun library => (library.name, library.bindings)

end Library
end RecordBridge.Guest
