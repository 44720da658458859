import ModuleKeeper.Json.Reader
import ModuleKeeper.Module
import ModuleKeeper.Selection
import ModuleKeeper.Url

/-!
# Faults

Why a command fails. Each fault is a cause with what is known about it; its
words and its kind follow. Three other ways to end are no faults: a *halt*,
when the user declines or nothing is left to do; a *mishap*, when data break
an operation that no rule of the program covers; and a refused entry or
selection, which the caller turns into a fault or asks about again.

## Main results

* `ancestry_head`: every kind comes first in its own ancestry.
* `ServiceFault.message_ne_empty`: a failed exchange always says why, if the service's own words
  do.
-/

namespace ModuleKeeper

/-! ## Kinds -/

/-- The kinds of faults. -/
inductive Kind where
  | general
  | settings
  | validation
  | service
  | catalog
  | command
  | unknownDatabase
  | modules
  | unknownModule
  | notInstalled
  | alreadyInstalled
  | stillNeeded
  | cycle
  deriving DecidableEq, Inhabited

namespace Kind

/-- The code that names a kind in the log. -/
def code : Kind → Text
  | general => "UNKNOWN"
  | settings => "CONFIG_ERROR"
  | validation => "VALIDATION_ERROR"
  | service => "SERVICE_ERROR"
  | catalog => "CATALOG_FETCH_ERROR"
  | command => "COMMAND_EXECUTION_ERROR"
  | unknownDatabase => "DATABASE_NOT_FOUND"
  | modules => "MODULE_VALIDATION_ERROR"
  | unknownModule => "MODULE_NOT_FOUND"
  | notInstalled => "MODULE_NOT_INSTALLED"
  | alreadyInstalled => "MODULE_ALREADY_INSTALLED"
  | stillNeeded => "MODULE_STILL_DEPENDED"
  | cycle => "DEPENDENCY_CYCLE"

/-- The kinds that a kind is a case of, the narrowest first. -/
def ancestry : Kind → List Kind
  | general => [general]
  | modules => [modules, general]
  | k@unknownModule | k@notInstalled | k@alreadyInstalled | k@stillNeeded | k@cycle =>
    [k, modules, general]
  | k => [k, general]

theorem ancestry_head (k : Kind) : k.ancestry.head? = some k := by cases k <;> rfl

end Kind

/-! ## Causes -/

/-- Why a settings file cannot be read. -/
inductive FileFault where
  /-- The path leads to a directory. -/
  | directory
  /-- The path cannot be followed. -/
  | badPath
  /-- The bytes are no UTF-8. -/
  | badEncoding
  /-- The text is no document of the format. -/
  | malformed
  /-- A scalar has a tag that it cannot be read with. -/
  | badScalar
  /-- The file is larger than is read. -/
  | tooLarge (path : Text) (size : Nat)

/-- The size in bytes up to which a settings file is read. -/
def fileSizeLimit : Nat := 1024 * 1024

/-- The words for a file that cannot be read. -/
def FileFault.message : FileFault → Text
  | directory => "路径是目录"
  | badPath => "路径无效"
  | badEncoding => "不是有效的 UTF-8"
  | malformed => "YAML 格式错误"
  | badScalar => "标量无法读取"
  | tooLarge path size =>
    "YAML 文件过大: " ++ path ++ " (" ++ toString size ++ " 字节), 超过限制 " ++
      toString fileSizeLimit ++ " 字节"

/-- Why settings are refused. -/
inductive SettingsFault where
  | unreadable (path : Text) (cause : FileFault)
  | timeoutNotWhole (timeout : Value)
  | timeoutNotPositive (timeout : Int)
  | badScheme (scheme address : Value)
  | stated (message : Text)

/-- The name of the setting that holds the address of the service. -/
def addressSetting : Text := "server_url"

/-- The words for refused settings. -/
def SettingsFault.message : SettingsFault → Text
  | unreadable path cause => "读取配置文件失败: " ++ path ++ " - " ++ cause.message
  | timeoutNotWhole timeout => "timeout 必须是整数: " ++ timeout.literalText
  | timeoutNotPositive timeout =>
    "timeout 必须大于 0: " ++ Text.ofList (Value.intText timeout)
  | badScheme scheme address => Url.schemeMessage scheme addressSetting address
  | stated message => message

/-- Why input is refused. -/
inductive ValidationFault where
  | badScheme (scheme : Value) (setting : Text) (address : Value)
  /-- Modules would have to be selected, and nobody can be asked. -/
  | noSelection
  /-- A database would have to be selected, and nobody can be asked. -/
  | noDatabaseSelection
  /-- A change would have to be confirmed, and nobody can be asked. -/
  | noConfirmation
  /-- The name of a database is blank. -/
  | blankDatabase
  | stated (message : Text) (details : List Text)

/-- The words for refused input. -/
def ValidationFault.message : ValidationFault → Text
  | badScheme scheme setting address => Url.schemeMessage scheme setting address
  | noSelection => "未指定模块且当前不支持交互式选择"
  | noDatabaseSelection => "未指定 --db 且当前不支持交互式选择"
  | noConfirmation => "需要确认操作，请使用 --yes 或在交互式终端中运行"
  | blankDatabase => "数据库别名不能为空"
  | stated message _ => message

/-- Why an exchange with the service failed. -/
inductive ServiceFault where
  /-- The service refused, in its own words. -/
  | refused (status : Int) (words : Text)
  /-- The service refused without words. -/
  | silent (status : Int) (reason : Text)
  /-- No answer came. -/
  | unreachable (reason : Text)
  /-- The answer is no JSON. -/
  | malformed (misread : Json.Misread)
  | stated (message : Text) (status : Option Int)

namespace ServiceFault

/-- The words for a failed exchange. -/
def message : ServiceFault → Text
  | refused _ words => words
  | silent status reason =>
    "HTTP 错误 " ++ Text.ofList (Value.intText status) ++ ": " ++ reason
  | unreachable reason => "网络错误: " ++ reason
  | malformed misread => "响应格式错误: " ++ misread.message
  | stated message _ => message

/-- The status of the answer, if the service refused. -/
def status? : ServiceFault → Option Int
  | refused status _ => some status
  | silent status _ => some status
  | stated _ status => status
  | _ => none

theorem append_ne_empty {s t : Text} (h : s ≠ "") : s ++ t ≠ "" := by
  intro he
  have : s.toList ++ t.toList = [] := congrArg Text.toList he
  exact h (Text.isEmpty_iff.1 (List.isEmpty_iff.2 (List.append_eq_nil_iff.1 this).1))

theorem message_ne_empty {f : ServiceFault} (hw : ∀ s w, f = refused s w → w ≠ "")
    (hs : ∀ m s, f = stated m s → m ≠ "") : f.message ≠ "" := by
  cases f with
  | refused s w => exact hw s w rfl
  | stated m s => exact hs m s rfl
  | silent s r =>
    exact append_ne_empty (append_ne_empty (append_ne_empty (by decide)))
  | unreachable r => exact append_ne_empty (by decide)
  | malformed m => exact append_ne_empty (by decide)

end ServiceFault

/-- Why modules or databases could not be listed. -/
inductive CatalogFault where
  | modulesFailed (cause : ServiceFault)
  | databasesFailed (cause : ServiceFault)
  /-- The answer is a value of the named kind and no list. -/
  | notAList (kindName : Text)
  | badCatalogEntry (cause : Module.EntryFault)
  | badInstalledEntry (cause : Module.EntryFault)
  | stated (message : Text)

namespace CatalogFault

/-- The words for a list that could not be had. -/
def message : CatalogFault → Text
  | modulesFailed cause => "获取模块列表失败: " ++ cause.message
  | databasesFailed cause => "获取数据库列表失败: " ++ cause.message
  | notAList kindName => "获取模块列表失败: 响应不是数组 (" ++ kindName ++ ")"
  | badCatalogEntry cause => "获取模块列表失败: 响应格式错误 - " ++ cause.message
  | badInstalledEntry cause => "获取已安装模块失败: 响应格式错误 - " ++ cause.message
  | stated message => message

end CatalogFault

/-- Why a change could not be made. -/
inductive CommandFault where
  | installFailed (cause : ServiceFault)
  | removalFailed (cause : ServiceFault)
  | stated (message : Text)

namespace CommandFault

/-- The words for a change that could not be made. -/
def message : CommandFault → Text
  | installFailed cause => "安装模块失败: " ++ cause.message
  | removalFailed cause => "卸载模块失败: " ++ cause.message
  | stated message => message

end CommandFault

/-! ## Faults -/

/-- A fault: why a command fails. -/
inductive Fault where
  | settings (cause : SettingsFault)
  | validation (cause : ValidationFault)
  | service (cause : ServiceFault)
  | catalog (cause : CatalogFault)
  | command (cause : CommandFault)
  | unknownDatabase (database : Value)
  | unknownModule (name : Value)
  | notInstalled (name : Value)
  | alreadyInstalled (name : Value)
  /-- A module that stays needs one that is to go. -/
  | stillNeeded (dependency dependent : Value)
  /-- Modules that need each other, the first one again at the end. -/
  | cycle (path : List Text)
  /-- A fault about modules in words of its own. -/
  | modules (message : Text)
  /-- A fault in words of its own. -/
  | general (message : Text)

namespace Fault

/-- The kind of a fault. -/
def kind : Fault → Kind
  | settings _ => .settings
  | validation _ => .validation
  | service _ => .service
  | catalog _ => .catalog
  | command _ => .command
  | unknownDatabase _ => .unknownDatabase
  | unknownModule _ => .unknownModule
  | notInstalled _ => .notInstalled
  | alreadyInstalled _ => .alreadyInstalled
  | stillNeeded _ _ => .stillNeeded
  | cycle _ => .cycle
  | modules _ => .modules
  | general _ => .general

/-- The words for a fault. -/
def message : Fault → Text
  | settings cause => cause.message
  | validation cause => cause.message
  | service cause => cause.message
  | catalog cause => cause.message
  | command cause => cause.message
  | unknownDatabase database => "不存在名为 " ++ database.text ++ " 的数据库"
  | unknownModule name => "不存在名为 " ++ name.text ++ " 的模块"
  | notInstalled name => "模块 " ++ name.text ++ " 未安装"
  | alreadyInstalled name => "模块 " ++ name.text ++ " 已安装"
  | stillNeeded dependency dependent =>
    "模块 " ++ dependent.text ++ " 依赖模块 " ++ dependency.text ++ "，无法卸载"
  | cycle path => "检测到循环依赖: " ++ Text.intercalate " -> " path
  | modules message => message
  | general message => message

end Fault

/-! ## Other ends -/

/-- A benign end: the user declined, or there was nothing to do. -/
inductive Halt where
  /-- Every module is installed. -/
  | allInstalled
  /-- No module is installed. -/
  | noneInstalled
  /-- The service knows no database. -/
  | noDatabases
  /-- The user selected nothing. -/
  | nothingSelected
  /-- The user did not confirm. -/
  | declined (message : Text)
  /-- Nothing to do, in words of its own. -/
  | idle (message : Text)

namespace Halt

/-- Whether a halt means that there was nothing to do. -/
def isIdle : Halt → Bool
  | allInstalled => true
  | noneInstalled => true
  | noDatabases => true
  | idle _ => true
  | nothingSelected => false
  | declined _ => false

/-- The words for a halt. -/
def message : Halt → Text
  | allInstalled => "所有可用模块均已安装"
  | noneInstalled => "尚未安装任何模块"
  | noDatabases => "没有可用的数据库"
  | nothingSelected => "未选择任何模块"
  | declined message => message
  | idle message => message

end Halt

/-- A failure of an operation on data for which no rule of the program speaks. -/
inductive Mishap where
  /-- A value of the wrong kind. -/
  | wrongType
  /-- A value of the right kind that the operation cannot use. -/
  | badValue
  /-- A value that lacks what the operation asks it for. -/
  | missingAttribute
  /-- A number too large for the operation. -/
  | overflow
  /-- A position outside a list. -/
  | outOfRange
  /-- A key that is not there. -/
  | missingKey
  /-- Bytes that are no text. -/
  | badEncoding
  /-- A text that cannot be written as bytes. -/
  | unwritable
  /-- A user whose home directory is not known. -/
  | homeless
  /-- A time that no calendar of the system reaches. -/
  | outOfTime
  /-- A value that contains itself, where its end is asked for. -/
  | endless
  /-- A text that is too long to be held. -/
  | outOfMemory
  /-- The input ended before an answer. -/
  | inputEnded
  deriving DecidableEq, Inhabited

/-- How a task ends without a result. -/
inductive Failure where
  | fault (cause : Fault)
  | halt (cause : Halt)
  | mishap (cause : Mishap)

end ModuleKeeper
