import RecordBridge.Guest.Operators
import RecordBridge.Site.Files

namespace RecordBridge.Site

open RecordBridge.Guest

-- What the installed files make: sample functions and classes, each known by what it does. Files of any other
-- make have objects whose classes answer for themselves (`Object.own`), and a callable is any step at all.
def functions (entries : List (String × Operator)) : List Statement :=
  entries.map fun entry => .define entry.1 (.function entry.2)

def classes (entries : List (String × ClassRef)) : List Statement :=
  entries.map fun entry => .define entry.1 (.classRef entry.2)

def bridgeOperators : Source :=
  .script ([
    .require "zlib",
    .assign Operator.gatheredName (.list []),
    .assign "NOT_CALLABLE" (.int 42),
    .assign "FALSY_PROBES" (.dict (Operator.probes.map fun entry => (.ofString entry.1, entry.2)))] ++
    functions [
      ("collect", .collect), ("double", .double), ("keep_even", .keepEven), ("probe", .probe),
      ("longer_than_three", .longerThanThree), ("crc", .crc), ("wide", .wide),
      ("negative", .negative), ("huge", .huge), ("huge_negative", .hugeNegative),
      ("not_an_int", .notAnInt), ("explode", .explode), ("reverse_bytes", .reverseBytes),
      ("to_text", .toText)] ++
    classes [("NoTruth", .trait .noTruth)] ++ functions [("no_truth", .noTruth)])

def sampleClasses : List (String × ClassRef) :=
  (Trait.all.filter (· ≠ .noTruth)).map fun t => (t.name, .trait t)

-- Each belongs to the module whose body makes it.
def ownExceptions : List (String × ClassRef) :=
  ((Operator.ownExceptions "").filter (·.1 ≠ "Inner")).map fun entry =>
    (entry.1, .exception entry.2)

def sampleOperators : Source :=
  .script (classes (sampleClasses ++ [
    ("StrSub", .strSub), ("BytesSub", .bytesSub), ("IntSub", .intSub), ("IntAnd", .intAnd),
    ("Outer", .outer), ("Holder", .holder)] ++ ownExceptions) ++
  functions [
    ("canned", .canned), ("identity", .identity), ("no_args", .noArgs), ("two_args", .twoArgs),
    ("defaulted", .defaulted), ("raise_error", .raiseError)] ++ [
  .assign "instance" (.sample .callMe), .assign "NUMBER" (.int 7), .assign "NONE" .none,
  .assign "TEXT" (.ofString "text"), .assign "OBJECTS" (.dict [])])

def stringOperators : Source :=
  .script (functions [("shout", .shout), ("first", .first), ("length", .length)])

def raises (c message : String) : Source :=
  .script [.raise (.builtin c) [.ofString message]]

def notParsed (line : Nat) : Source := .unparsable (Source.syntaxError "invalid syntax" line)

-- Names below the installation directory.
def installedFiles : List (List String × Source) := [
  (["bridge_ops.py"], bridgeOperators),
  (["broken_module.py"], raises "RuntimeError" "broken at import"),
  (["failing_setup.py"], raises "RuntimeError" "setup failed on purpose"),
  (["setup_bridge.py"], .script [.require "os", .require "sys", .searchHere "here"]),
  (["oracle_ops.py"], sampleOperators),
  (["oracle_pkg", "__init__.py"], .script [.assign "VALUE" (.int 1)]),
  (["oracle_pkg", "sub.py"], stringOperators),
  (["dynamic_attrs.py"], .script (functions [("__getattr__", .missingAttribute)])),
  (["bad_syntax_module.py"], notParsed 1),
  (["needs_missing.py"], .script [.require "no_such_dependency"]),
  (["empty_setup.py"], .script []),
  (["marker_setup.py"], .script [
    .require "builtins", .publish "oracle_file" "__file__" rfl, .assign "oracle_marker" (.int 7)]),
  (["uses_marker.py"], .script [
    .require "builtins", .publish "oracle_again" "oracle_marker" rfl, .increment "oracle_marker"]),
  (["deletes_file.py"], .script [.delete "__file__"]),
  (["syntax_error.py"], notParsed 2),
  (["exit_setup.py"], .script [.raise (.builtin "SystemExit") [.int 3]]),
  (["not_utf8.py"], .undecodable [.assign "x" (.int 1)])]

-- The files with fewer bytes than the header of a library.
def shortFiles : List (List String) := [
  ["broken_module.py"], ["failing_setup.py"], ["oracle_pkg", "__init__.py"],
  ["bad_syntax_module.py"], ["needs_missing.py"], ["empty_setup.py"], ["deletes_file.py"],
  ["syntax_error.py"], ["exit_setup.py"], ["not_utf8.py"]]

def installedDirectories : List (List String) := [[], ["oracle_pkg"], ["a_directory.py"]]

def systemDirectories : List (List String) := [
  [], ["bin"], ["boot"], ["dev"], ["etc"], ["home"], ["lib"], ["media"], ["mnt"], ["opt"], ["proc"],
  ["root"], ["run"], ["sbin"], ["srv"], ["sys"], ["tmp"], ["usr"], ["usr", "bin"], ["usr", "lib"],
  ["usr", "local"], ["usr", "sbin"], ["usr", "share"], ["var"], ["var", "lib"], ["var", "log"],
  ["var", "tmp"]]

-- Places that every machine has.
def systemNodes : List (List Bytes × Node) :=
  (systemDirectories.map fun names => (names.map Utf8.encode, .directory)) ++
  [(["dev", "null"].map Utf8.encode, .file (.script []) true),
    (["etc", "passwd"].map Utf8.encode, .file (notParsed 1) false)]

-- The empty name stands for the program itself.
def installedLibraries : List String := [
  "", "libc.so.6", "libm.so.6", "libdl.so.2", "libpthread.so.0", "librt.so.1", "libutil.so.1",
  "libresolv.so.2", "ld-linux-x86-64.so.2", "libgcc_s.so.1", "libpython3.11.so.1.0"]

def installed (directory : Bytes) : Site :=
  let base := Path.place directory
  let below := fun names => base ++ List.map Utf8.encode names
  ⟨directory,
    systemNodes ++ (installedDirectories.map fun names => (below names, .directory)) ++
      (installedFiles.map fun entry =>
        (below entry.1, .file entry.2 (shortFiles.contains entry.1))),
    installedLibraries, "/lib/x86_64-linux-gnu", Interpreter.noCode⟩

end RecordBridge.Site
