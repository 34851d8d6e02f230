import Cutover.Text.Split

/-!
# Parts of the program

The parts of the program that an engine can be chosen from by name, and the names that each of them
knows.  Most of these stand for something else than an engine.
-/

namespace Cutover.EngineName

/-- A part of the program. -/
structure Part where
  name : String
  /-- Whether it has parts of its own. -/
  isPackage : Bool
  /-- The names it knows, with blanks between them. -/
  nameList : String
  deriving DecidableEq, Repr

/-- The names that every part knows. -/
def commonNames : String :=
  "__annotations__ __builtins__ __cached__ __class__ __delattr__ __dict__ __dir__ " ++
    "__doc__ __eq__ __file__ __format__ __ge__ __getattribute__ __getstate__ __gt__ " ++
    "__hash__ __init__ __init_subclass__ __le__ __loader__ __lt__ __name__ __ne__ " ++
    "__new__ __package__ __reduce__ __reduce_ex__ __repr__ __setattr__ __sizeof__ " ++
    "__spec__ __str__ __subclasshook__"

/-- Whether a part knows a name. -/
def Part.knows (part : Part) (name : String) : Bool :=
  (Text.splitText ' ' part.nameList).contains name || (Text.splitText ' ' commonNames).contains name ||
    (part.isPackage && name = "__path__")

/-- All parts of the program. -/
def catalogue : List Part :=
  [
    ⟨"migration_control", true,
      "__version__ NamespaceFilter NamespacePattern MigrationSnapshot " ++
      "MigrationState __all__ engine api models cli core lifecycle utils"⟩,
    ⟨"migration_control.api", true,
      "main handler"⟩,
    ⟨"migration_control.api.handler", false,
      "logging Optional CommandResult MigrationController CommandResponse " ++
      "FinalizeRequest PauseRequest ResumeRequest StartRequest StatusRequest " ++
      "StatusResponse MigrationSnapshot logger command_response status_response " ++
      "ProtocolHandler"⟩,
    ⟨"migration_control.api.main", false,
      "logging asynccontextmanager Optional Depends FastAPI Request __version__ " ++
      "ProtocolHandler MigrationController CommandResponse FinalizeRequest " ++
      "PauseRequest ResumeRequest StartRequest StatusRequest StatusResponse logger " ++
      "create_app"⟩,
    ⟨"migration_control.cli", true,
      "main client"⟩,
    ⟨"migration_control.cli.client", false,
      "logging Any Dict List Optional httpx ControlPlaneConnectionError " ++
      "DEFAULT_HOST DEFAULT_PORT CommandResponse FinalizeRequest ResumeRequest " ++
      "StartRequest StatusResponse logger ControlPlaneClient"⟩,
    ⟨"migration_control.cli.main", false,
      "json sys Callable Optional Tuple click box Console escape Table __version__ " ++
      "ControlPlaneClient ConfigurationError ControlPlaneConnectionError " ++
      "DEFAULT_HOST DEFAULT_PORT CommandResponse split_namespace_list console " ++
      "STATE_STYLES connection_options _client _report _send main serve start " ++
      "status pause resume finalize"⟩,
    ⟨"migration_control.core", true,
      "MigrationControlError InvalidPatternError InvalidTransitionError " ++
      "AlreadyStartedError HistoryLostError EngineSignalError " ++
      "EngineNotAttachedError ConfigurationError ControlPlaneConnectionError " ++
      "__all__ exceptions"⟩,
    ⟨"migration_control.core.exceptions", false,
      "Any Dict List Optional MigrationControlError InvalidPatternError " ++
      "InvalidTransitionError AlreadyStartedError HistoryLostError " ++
      "EngineSignalError ConfigurationError ControlPlaneConnectionError " ++
      "EngineNotAttachedError"⟩,
    ⟨"migration_control.engine", true,
      "ApplyEngine LoggingApplyEngine load_engine __all__ base"⟩,
    ⟨"migration_control.engine.base", false,
      "importlib inspect logging ABC abstractmethod TYPE_CHECKING Optional " ++
      "ConfigurationError EngineNotAttachedError NamespaceFilter logger ApplyEngine " ++
      "LoggingApplyEngine load_engine"⟩,
    ⟨"migration_control.lifecycle", true,
      "CommandResult MigrationController TransitionOutcome __all__ controller " ++
      "transitions"⟩,
    ⟨"migration_control.lifecycle.controller", false,
      "asyncio logging dataclass Awaitable Callable Iterable Optional Tuple " ++
      "EngineSignalError InvalidTransitionError MigrationControlError ApplyEngine " ++
      "LoggingApplyEngine transitions TransitionOutcome MigrationSnapshot " ++
      "MigrationState AuditLogger logger CommandResult SignalTurn " ++
      "MigrationController"⟩,
    ⟨"migration_control.lifecycle.transitions", false,
      "dataclass Dict FrozenSet Iterable Optional AlreadyStartedError " ++
      "HistoryLostError InvalidPatternError InvalidTransitionError " ++
      "MigrationControlError build_filter MigrationSnapshot MigrationState START " ++
      "PAUSE RESUME RESUME_FROM_FAILURE FINALIZE COMPLETE_FINALIZE FAIL " ++
      "VALID_SOURCE_STATES TransitionOutcome allowed start pause _resume_paused " ++
      "_resume_failed resume begin_finalize complete_finalize fail " ++
      "mark_history_lost"⟩,
    ⟨"migration_control.models", true,
      "NamespacePattern NamespaceFilter parse_pattern build_filter matches " ++
      "MigrationState MigrationSnapshot TransitionRecord StartRequest StatusRequest " ++
      "PauseRequest ResumeRequest FinalizeRequest CommandResponse StatusResponse " ++
      "ControlPlaneConfig load_config __all__ protocol config state namespace"⟩,
    ⟨"migration_control.models.config", false,
      "os Path Any Dict Optional Union yaml BaseModel Field ValidationError " ++
      "field_validator ConfigurationError load_config_file DEFAULT_HOST " ++
      "DEFAULT_PORT ENV_PREFIX _ENV_FIELDS _LOG_LEVELS ControlPlaneConfig " ++
      "_env_overrides load_config"⟩,
    ⟨"migration_control.models.namespace", false,
      "re Dict Iterable List Optional Tuple BaseModel ConfigDict " ++
      "InvalidPatternError NAMESPACE_SEPARATOR WILDCARD _DATABASE_RE _COLLECTION_RE " ++
      "NamespacePattern NamespaceFilter parse_pattern _parse_all build_filter " ++
      "matches"⟩,
    ⟨"migration_control.models.protocol", false,
      "datetime List Optional BaseModel ConfigDict Field field_validator to_camel " ++
      "MigrationState ProtocolModel StartRequest StatusRequest PauseRequest " ++
      "ResumeRequest FinalizeRequest CommandResponse StatusResponse"⟩,
    ⟨"migration_control.models.state", false,
      "datetime UTC Enum Any Dict Optional Tuple BaseModel ConfigDict Field " ++
      "NamespaceFilter MigrationState TransitionRecord MigrationSnapshot"⟩,
    ⟨"migration_control.utils", true,
      "load_config_file split_namespace_list setup_logging get_logger AuditLogger " ++
      "StructuredFormatter __all__ helpers logging"⟩,
    ⟨"migration_control.utils.helpers", false,
      "json Path Any Dict Iterable List Union yaml load_config_file " ++
      "split_namespace_list"⟩,
    ⟨"migration_control.utils.logging", false,
      "json logging sys datetime Path Any Dict Optional dataclass field asdict Enum " ++
      "Console RichHandler ROOT_LOGGER_NAME AUDIT_LOGGER_NAME MAX_LOG_SIZE " ++
      "LOG_BACKUP_COUNT _RECORD_ATTRIBUTES LogLevel LogCategory LogEntry " ++
      "StructuredFormatter AuditLogger setup_logging get_logger"⟩
  ]

end Cutover.EngineName
