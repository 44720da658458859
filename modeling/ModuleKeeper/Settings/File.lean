import ModuleKeeper.Settings
import ModuleKeeper.Yaml.Document

/-!
# Settings files

A settings file is a document whose value is a map. A file that is missing or
empty holds no settings, and one that holds something else is as good as
empty, which is reported. Large files are refused before they are read.
-/

namespace ModuleKeeper.Settings

/-- What a path leads to. -/
inductive File where
  | missing
  | directory
  /-- The path cannot be followed to its end. -/
  | blocked
  | contents (bytes : List UInt8)
  deriving Inhabited

/-- Why no entries can be had from a file. -/
inductive FileFailure where
  | fault (cause : FileFault)
  | mishap (cause : Mishap)

namespace File

/-! ## Reading -/

/-- The failure that goes with trouble in a document. -/
def failureOf : Yaml.Trouble → FileFailure
  | .malformed => .fault .malformed
  | .badValue => .fault .badScalar
  | .overflow => .mishap .overflow
  | .outOfRange => .mishap .outOfRange
  | .missingKey => .mishap .missingKey
  | .missingAttribute => .mishap .missingAttribute
  | .badEncoding => .fault .badEncoding
  | .wrongType => .mishap .wrongType
  | .endless => .mishap .endless

/-- The notice about a file that is no document. -/
def malformedNotice (path : Text) : Notice :=
  Notice.plain .error .settingsFile
    ("解析 YAML 文件失败: " ++ path ++ ", 错误: " ++ FileFault.malformed.message)

/-- The notice about a file that cannot be opened. -/
def unreadableNotice (path : Text) : Notice :=
  Notice.plain .error .settingsFile
    ("读取文件失败: " ++ path ++ ", 错误: " ++ FileFault.directory.message)

/-- The notice about a document that is no map. -/
def otherKindNotice (path kindName : Text) : Notice :=
  Notice.plain .warning .settingsFile
    (path ++ " 内容不是字典类型 (实际类型: " ++ kindName ++ ")，返回空字典")

/-- The entries of a document. -/
def entriesOf (path : Text) (source : Yaml.Source) :
    List Notice × Except FileFailure (List (Value × Value)) :=
  match Yaml.read source with
  | .error .malformed => ([malformedNotice path], .error (.fault .malformed))
  | .error t => ([], .error (failureOf t))
  | .ok none => ([], .ok [])
  | .ok (some .null) => ([], .ok [])
  | .ok (some (.map entries)) => ([], .ok entries)
  | .ok (some v) => ([otherKindNotice path v.kindName], .ok [])

/-- The entries of a file, with the notices about it. `path` is where it was found. -/
def read (path : Text) : File → List Notice × Except FileFailure (List (Value × Value))
  | missing => ([], .ok [])
  | directory => ([unreadableNotice path], .error (.fault .directory))
  | blocked => ([], .error (.fault .badPath))
  | contents bytes =>
    if fileSizeLimit < bytes.length then ([], .error (.fault (.tooLarge path bytes.length)))
    else entriesOf path (.ofBytes bytes)

end File

/-! ## Settings from a file -/

/-- The place where settings are looked for if none is named. -/
def defaultPath : Text := "~/.modctl/config.yml"

/-- The variable that names the place of the settings. -/
def pathVariable : Text := "MODCTL_CONFIG"

/-- The failure of reading settings from the place that was named as `path`. -/
def readFailure (path : Text) : FileFailure → Failure
  | .fault cause => .fault (.settings (.unreadable path cause))
  | .mishap cause => .mishap cause

/-- Where a path leads: the path in its shortest form and what is there. -/
abbrev Finding : Type := Except FileFailure (Text × File)

/-- The settings in a file that was named as `path`. -/
def ofFile (path : Text) : Finding → List Notice × Except Failure Settings
  | .error f => ([], .error (readFailure path f))
  | .ok (found, file) =>
    let (notices, result) := file.read found
    (notices, (result.mapError (readFailure path)).map ofEntries)

/-- Where the settings are: at a named place, where the environment says, or at home. -/
def locate (named : Option Text) (env : Environment) : Text :=
  ((named.filter (! ·.isEmpty)).or (env.get? pathVariable)).getD defaultPath

/-- The notice about settings that were loaded. -/
def loadedNotice (path : Text) (s : Settings) : Notice :=
  Notice.plain .info .settings ("配置已加载: " ++ path ++ " (server=" ++ s.address.text ++ ")")

/-- Loads settings: from a file, then from the environment, and checks them. -/
def load (path : Text) (finding : Finding) (env : Environment) :
    List Notice × Except Failure Settings :=
  let (notices, result) := ofFile path finding
  match result.bind fun s => (s.applyEnvironment env).check with
  | .error f => (notices, .error f)
  | .ok s => (notices ++ [loadedNotice path s], .ok s)

end ModuleKeeper.Settings
