/-!
The names that are there before any source text is read: classes with their bases, and for each
module its own classes, names of classes from elsewhere, modules, and all other names.
-/
namespace Exposure.Known

/-- Modules and names of classes with the qualified names of their bases, bases first. -/
def classes : List (String × String × List String) := [
  ("builtins", "object", []), ("builtins", "BaseException", ["builtins.object"]),
  ("builtins", "Exception", ["builtins.BaseException"]),
  ("builtins", "ArithmeticError", ["builtins.Exception"]),
  ("builtins", "AssertionError", ["builtins.Exception"]),
  ("builtins", "AttributeError", ["builtins.Exception"]),
  ("builtins", "BaseExceptionGroup", ["builtins.BaseException"]),
  ("builtins", "OSError", ["builtins.Exception"]),
  ("builtins", "BlockingIOError", ["builtins.OSError"]),
  ("builtins", "ConnectionError", ["builtins.OSError"]),
  ("builtins", "BrokenPipeError", ["builtins.ConnectionError"]),
  ("builtins", "BufferError", ["builtins.Exception"]),
  ("builtins", "Warning", ["builtins.Exception"]),
  ("builtins", "BytesWarning", ["builtins.Warning"]),
  ("builtins", "ChildProcessError", ["builtins.OSError"]),
  ("builtins", "ConnectionAbortedError", ["builtins.ConnectionError"]),
  ("builtins", "ConnectionRefusedError", ["builtins.ConnectionError"]),
  ("builtins", "ConnectionResetError", ["builtins.ConnectionError"]),
  ("builtins", "DeprecationWarning", ["builtins.Warning"]),
  ("builtins", "EOFError", ["builtins.Exception"]),
  ("builtins", "EncodingWarning", ["builtins.Warning"]),
  ("builtins", "ExceptionGroup", ["builtins.BaseExceptionGroup", "builtins.Exception"]),
  ("builtins", "FileExistsError", ["builtins.OSError"]),
  ("builtins", "FileNotFoundError", ["builtins.OSError"]),
  ("builtins", "FloatingPointError", ["builtins.ArithmeticError"]),
  ("builtins", "FutureWarning", ["builtins.Warning"]),
  ("builtins", "GeneratorExit", ["builtins.BaseException"]),
  ("builtins", "ImportError", ["builtins.Exception"]),
  ("builtins", "ImportWarning", ["builtins.Warning"]),
  ("builtins", "SyntaxError", ["builtins.Exception"]),
  ("builtins", "IndentationError", ["builtins.SyntaxError"]),
  ("builtins", "LookupError", ["builtins.Exception"]),
  ("builtins", "IndexError", ["builtins.LookupError"]),
  ("builtins", "InterruptedError", ["builtins.OSError"]),
  ("builtins", "IsADirectoryError", ["builtins.OSError"]),
  ("builtins", "KeyError", ["builtins.LookupError"]),
  ("builtins", "KeyboardInterrupt", ["builtins.BaseException"]),
  ("builtins", "MemoryError", ["builtins.Exception"]),
  ("builtins", "ModuleNotFoundError", ["builtins.ImportError"]),
  ("builtins", "NameError", ["builtins.Exception"]),
  ("builtins", "NotADirectoryError", ["builtins.OSError"]),
  ("builtins", "RuntimeError", ["builtins.Exception"]),
  ("builtins", "NotImplementedError", ["builtins.RuntimeError"]),
  ("builtins", "OverflowError", ["builtins.ArithmeticError"]),
  ("builtins", "PendingDeprecationWarning", ["builtins.Warning"]),
  ("builtins", "PermissionError", ["builtins.OSError"]),
  ("builtins", "ProcessLookupError", ["builtins.OSError"]),
  ("builtins", "RecursionError", ["builtins.RuntimeError"]),
  ("builtins", "ReferenceError", ["builtins.Exception"]),
  ("builtins", "ResourceWarning", ["builtins.Warning"]),
  ("builtins", "RuntimeWarning", ["builtins.Warning"]),
  ("builtins", "StopAsyncIteration", ["builtins.Exception"]),
  ("builtins", "StopIteration", ["builtins.Exception"]),
  ("builtins", "SyntaxWarning", ["builtins.Warning"]),
  ("builtins", "SystemError", ["builtins.Exception"]),
  ("builtins", "SystemExit", ["builtins.BaseException"]),
  ("builtins", "TabError", ["builtins.IndentationError"]),
  ("builtins", "TimeoutError", ["builtins.OSError"]),
  ("builtins", "TypeError", ["builtins.Exception"]),
  ("builtins", "UnboundLocalError", ["builtins.NameError"]),
  ("builtins", "ValueError", ["builtins.Exception"]),
  ("builtins", "UnicodeError", ["builtins.ValueError"]),
  ("builtins", "UnicodeDecodeError", ["builtins.UnicodeError"]),
  ("builtins", "UnicodeEncodeError", ["builtins.UnicodeError"]),
  ("builtins", "UnicodeTranslateError", ["builtins.UnicodeError"]),
  ("builtins", "UnicodeWarning", ["builtins.Warning"]),
  ("builtins", "UserWarning", ["builtins.Warning"]),
  ("builtins", "ZeroDivisionError", ["builtins.ArithmeticError"]),
  ("builtins", "int", ["builtins.object"]), ("builtins", "bool", ["builtins.int"]),
  ("builtins", "bytearray", ["builtins.object"]), ("builtins", "bytes", ["builtins.object"]),
  ("builtins", "classmethod", ["builtins.object"]), ("builtins", "complex", ["builtins.object"]),
  ("builtins", "dict", ["builtins.object"]), ("builtins", "enumerate", ["builtins.object"]),
  ("builtins", "filter", ["builtins.object"]), ("builtins", "float", ["builtins.object"]),
  ("builtins", "frozenset", ["builtins.object"]), ("builtins", "list", ["builtins.object"]),
  ("builtins", "map", ["builtins.object"]), ("builtins", "memoryview", ["builtins.object"]),
  ("builtins", "property", ["builtins.object"]), ("builtins", "range", ["builtins.object"]),
  ("builtins", "reversed", ["builtins.object"]), ("builtins", "set", ["builtins.object"]),
  ("builtins", "slice", ["builtins.object"]), ("builtins", "staticmethod", ["builtins.object"]),
  ("builtins", "str", ["builtins.object"]), ("builtins", "super", ["builtins.object"]),
  ("builtins", "tuple", ["builtins.object"]), ("builtins", "type", ["builtins.object"]),
  ("builtins", "zip", ["builtins.object"]), ("abc", "ABC", ["builtins.object"]),
  ("abc", "ABCMeta", ["builtins.type"]), ("abc", "abstractclassmethod", ["builtins.classmethod"]),
  ("abc", "abstractproperty", ["builtins.property"]),
  ("abc", "abstractstaticmethod", ["builtins.staticmethod"]),
  ("typing", "Annotated", ["builtins.object"]), ("typing", "Any", ["builtins.object"]),
  ("typing", "Generic", ["builtins.object"]), ("typing", "IO", ["typing.Generic"]),
  ("typing", "BinaryIO", ["typing.IO"]), ("typing", "_Final", ["builtins.object"]),
  ("typing", "ForwardRef", ["typing._Final"]), ("types", "GenericAlias", ["builtins.object"]),
  ("builtins", "method_descriptor", ["builtins.object"]),
  ("builtins", "method-wrapper", ["builtins.object"]),
  ("typing", "NamedTupleMeta", ["builtins.type"]), ("typing", "NewType", ["builtins.object"]),
  ("typing", "_Immutable", ["builtins.object"]),
  ("typing", "_BoundVarianceMixin", ["builtins.object"]),
  ("typing", "_PickleUsingNameMixin", ["builtins.object"]),
  ("typing", "ParamSpec", ["typing._Final", "typing._Immutable", "typing._BoundVarianceMixin", "typing._PickleUsingNameMixin"]),
  ("typing", "ParamSpecArgs", ["typing._Final", "typing._Immutable"]),
  ("typing", "ParamSpecKwargs", ["typing._Final", "typing._Immutable"]),
  ("typing", "Protocol", ["typing.Generic"]), ("typing", "SupportsAbs", ["typing.Protocol"]),
  ("typing", "SupportsBytes", ["typing.Protocol"]),
  ("typing", "SupportsComplex", ["typing.Protocol"]),
  ("typing", "SupportsFloat", ["typing.Protocol"]),
  ("typing", "SupportsIndex", ["typing.Protocol"]),
  ("typing", "SupportsInt", ["typing.Protocol"]),
  ("typing", "SupportsRound", ["typing.Protocol"]), ("typing", "TextIO", ["typing.IO"]),
  ("typing", "TypeVar", ["typing._Final", "typing._Immutable", "typing._BoundVarianceMixin", "typing._PickleUsingNameMixin"]),
  ("typing", "TypeVarTuple", ["typing._Final", "typing._Immutable", "typing._PickleUsingNameMixin"]),
  ("builtins", "wrapper_descriptor", ["builtins.object"]),
  ("collections", "defaultdict", ["builtins.dict"]), ("typing", "io", ["builtins.object"]),
  ("typing", "re", ["builtins.object"]), ("logging", "BufferingFormatter", ["builtins.object"]),
  ("logging", "Filterer", ["builtins.object"]), ("logging", "Handler", ["logging.Filterer"]),
  ("logging", "StreamHandler", ["logging.Handler"]),
  ("logging", "FileHandler", ["logging.StreamHandler"]),
  ("logging", "Filter", ["builtins.object"]), ("logging", "Formatter", ["builtins.object"]),
  ("logging", "LogRecord", ["builtins.object"]), ("logging", "Logger", ["logging.Filterer"]),
  ("logging", "LoggerAdapter", ["builtins.object"]), ("logging", "Manager", ["builtins.object"]),
  ("logging", "NullHandler", ["logging.Handler"]),
  ("logging", "PercentStyle", ["builtins.object"]),
  ("logging", "PlaceHolder", ["builtins.object"]), ("logging", "RootLogger", ["logging.Logger"]),
  ("logging", "StrFormatStyle", ["logging.PercentStyle"]),
  ("logging", "StringTemplateStyle", ["logging.PercentStyle"]),
  ("string", "Template", ["builtins.object"]),
  ("logging", "_StderrHandler", ["logging.StreamHandler"]),
  ("posix", "DirEntry", ["builtins.object"]), ("collections.abc", "Sized", ["builtins.object"]),
  ("collections.abc", "Iterable", ["builtins.object"]),
  ("collections.abc", "Container", ["builtins.object"]),
  ("collections.abc", "Collection", ["collections.abc.Sized", "collections.abc.Iterable", "collections.abc.Container"]),
  ("collections.abc", "Mapping", ["collections.abc.Collection"]),
  ("collections.abc", "MutableMapping", ["collections.abc.Mapping"]),
  ("os", "PathLike", ["abc.ABC"]), ("os", "_Environ", ["collections.abc.MutableMapping"]),
  ("os", "_wrap_close", ["builtins.object"]), ("posix", "sched_param", ["builtins.tuple"]),
  ("os", "stat_result", ["builtins.tuple"]), ("os", "statvfs_result", ["builtins.tuple"]),
  ("os", "terminal_size", ["builtins.tuple"]), ("posix", "times_result", ["builtins.tuple"]),
  ("posix", "uname_result", ["builtins.tuple"]), ("posix", "waitid_result", ["builtins.tuple"]),
  ("json.decoder", "JSONDecodeError", ["builtins.ValueError"]),
  ("json.decoder", "JSONDecoder", ["builtins.object"]),
  ("json.encoder", "JSONEncoder", ["builtins.object"]), ("_json", "Encoder", ["builtins.object"]),
  ("re", "Match", ["builtins.object"]), ("re", "Pattern", ["builtins.object"]),
  ("enum", "Enum", ["builtins.object"]), ("enum", "ReprEnum", ["enum.Enum"]),
  ("enum", "Flag", ["enum.Enum"]),
  ("enum", "IntFlag", ["builtins.int", "enum.ReprEnum", "enum.Flag"]),
  ("re", "RegexFlag", ["enum.IntFlag"]), ("re", "Scanner", ["builtins.object"]),
  ("re", "error", ["builtins.Exception"]), ("__future__", "_Feature", ["builtins.object"])]

/-- A module as it is known from the start. -/
structure ModuleNames where
  name : String
  /-- Its classes. -/
  classes : List String
  /-- Other names of classes, with the qualified names. -/
  renamed : List (String × String) := []
  /-- Names of other modules, with their full names. -/
  modules : List (String × String) := []
  /-- All other names. -/
  values : List String := []
  /-- Names that a star does not take. -/
  hidden : List String := []

def builtins : ModuleNames where
  name := "builtins"
  classes := [
    "ArithmeticError", "AssertionError", "AttributeError", "BaseException", "BaseExceptionGroup",
    "BlockingIOError", "BrokenPipeError", "BufferError", "BytesWarning", "ChildProcessError",
    "ConnectionAbortedError", "ConnectionError", "ConnectionRefusedError", "ConnectionResetError",
    "DeprecationWarning", "EOFError", "EncodingWarning", "Exception", "ExceptionGroup",
    "FileExistsError", "FileNotFoundError", "FloatingPointError", "FutureWarning",
    "GeneratorExit", "ImportError", "ImportWarning", "IndentationError", "IndexError",
    "InterruptedError", "IsADirectoryError", "KeyError", "KeyboardInterrupt", "LookupError",
    "MemoryError", "ModuleNotFoundError", "NameError", "NotADirectoryError",
    "NotImplementedError", "OSError", "OverflowError", "PendingDeprecationWarning",
    "PermissionError", "ProcessLookupError", "RecursionError", "ReferenceError",
    "ResourceWarning", "RuntimeError", "RuntimeWarning", "StopAsyncIteration", "StopIteration",
    "SyntaxError", "SyntaxWarning", "SystemError", "SystemExit", "TabError", "TimeoutError",
    "TypeError", "UnboundLocalError", "UnicodeDecodeError", "UnicodeEncodeError", "UnicodeError",
    "UnicodeTranslateError", "UnicodeWarning", "UserWarning", "ValueError", "Warning",
    "ZeroDivisionError", "bool", "bytearray", "bytes", "classmethod", "complex", "dict",
    "enumerate", "filter", "float", "frozenset", "int", "list", "map", "memoryview", "object",
    "property", "range", "reversed", "set", "slice", "staticmethod", "str", "super", "tuple",
    "type", "zip"]
  renamed := [
    ("EnvironmentError", "builtins.OSError"), ("IOError", "builtins.OSError")]
  values := [
    "__build_class__", "__import__", "abs", "aiter", "all", "anext", "any", "ascii", "bin",
    "breakpoint", "callable", "chr", "compile", "copyright", "credits", "delattr", "dir",
    "divmod", "eval", "exec", "exit", "format", "getattr", "globals", "hasattr", "hash", "help",
    "hex", "id", "input", "isinstance", "issubclass", "iter", "len", "license", "locals", "max",
    "min", "next", "oct", "open", "ord", "pow", "print", "quit", "repr", "round", "setattr",
    "sorted", "sum", "vars"]

def abstraction : ModuleNames where
  name := "abc"
  classes := [
    "ABC", "ABCMeta", "abstractclassmethod", "abstractproperty", "abstractstaticmethod"]
  values := [
    "abstractmethod", "get_cache_token", "update_abstractmethods"]

def typing : ModuleNames where
  name := "typing"
  classes := [
    "Annotated", "Any", "BinaryIO", "ForwardRef", "Generic", "IO", "NamedTupleMeta", "NewType",
    "ParamSpec", "ParamSpecArgs", "ParamSpecKwargs", "Protocol", "SupportsAbs", "SupportsBytes",
    "SupportsComplex", "SupportsFloat", "SupportsIndex", "SupportsInt", "SupportsRound", "TextIO",
    "TypeVar", "TypeVarTuple", "io", "re"]
  renamed := [
    ("ABCMeta", "abc.ABCMeta"), ("GenericAlias", "types.GenericAlias"),
    ("MethodDescriptorType", "builtins.method_descriptor"),
    ("MethodWrapperType", "builtins.method-wrapper"), ("Text", "builtins.str"),
    ("WrapperDescriptorType", "builtins.wrapper_descriptor"),
    ("defaultdict", "collections.defaultdict")]
  modules := [
    ("stdlib_re", "re")]
  values := [
    "AnyStr", "CT_co", "EXCLUDED_ATTRIBUTES", "KT", "NamedTuple", "T", "TYPE_CHECKING", "T_co",
    "T_contra", "TypedDict", "VT", "VT_co", "V_co", "abstractmethod", "assert_never",
    "assert_type", "cast", "clear_overloads", "dataclass_transform", "final", "get_args",
    "get_origin", "get_overloads", "get_type_hints", "is_typeddict", "no_type_check",
    "no_type_check_decorator", "overload", "reveal_type", "runtime_checkable"]
  hidden := [
    "NamedTupleMeta", "io", "re", "ABCMeta", "GenericAlias", "MethodDescriptorType",
    "MethodWrapperType", "WrapperDescriptorType", "defaultdict", "stdlib_re", "CT_co",
    "EXCLUDED_ATTRIBUTES", "KT", "T", "T_co", "T_contra", "VT", "VT_co", "V_co", "abstractmethod"]

def logging : ModuleNames where
  name := "logging"
  classes := [
    "BufferingFormatter", "FileHandler", "Filter", "Filterer", "Formatter", "Handler",
    "LogRecord", "Logger", "LoggerAdapter", "Manager", "NullHandler", "PercentStyle",
    "PlaceHolder", "RootLogger", "StrFormatStyle", "StreamHandler", "StringTemplateStyle"]
  renamed := [
    ("GenericAlias", "types.GenericAlias"), ("Template", "string.Template")]
  modules := [
    ("os", "os"), ("re", "re")]
  values := [
    "BASIC_FORMAT", "CRITICAL", "DEBUG", "ERROR", "FATAL", "INFO", "NOTSET", "WARN", "WARNING",
    "addLevelName", "basicConfig", "captureWarnings", "critical", "currentframe", "debug",
    "disable", "error", "exception", "fatal", "getLevelName", "getLevelNamesMapping",
    "getLogRecordFactory", "getLogger", "getLoggerClass", "info", "lastResort", "log",
    "logMultiprocessing", "logProcesses", "logThreads", "makeLogRecord", "raiseExceptions",
    "root", "setLogRecordFactory", "setLoggerClass", "shutdown", "warn", "warning"]
  hidden := [
    "Filterer", "Manager", "PercentStyle", "PlaceHolder", "RootLogger", "StrFormatStyle",
    "StringTemplateStyle", "GenericAlias", "Template", "os", "re", "currentframe",
    "logMultiprocessing", "logProcesses", "logThreads", "root"]

def system : ModuleNames where
  name := "os"
  classes := [
    "PathLike", "stat_result", "statvfs_result", "terminal_size"]
  renamed := [
    ("DirEntry", "posix.DirEntry"), ("GenericAlias", "types.GenericAlias"),
    ("Mapping", "collections.abc.Mapping"), ("MutableMapping", "collections.abc.MutableMapping"),
    ("error", "builtins.OSError"), ("sched_param", "posix.sched_param"),
    ("times_result", "posix.times_result"), ("uname_result", "posix.uname_result"),
    ("waitid_result", "posix.waitid_result")]
  modules := [
    ("abc", "abc"), ("path", "posixpath")]
  values := [
    "CLD_CONTINUED", "CLD_DUMPED", "CLD_EXITED", "CLD_KILLED", "CLD_STOPPED", "CLD_TRAPPED",
    "EFD_CLOEXEC", "EFD_NONBLOCK", "EFD_SEMAPHORE", "EX_CANTCREAT", "EX_CONFIG", "EX_DATAERR",
    "EX_IOERR", "EX_NOHOST", "EX_NOINPUT", "EX_NOPERM", "EX_NOUSER", "EX_OK", "EX_OSERR",
    "EX_OSFILE", "EX_PROTOCOL", "EX_SOFTWARE", "EX_TEMPFAIL", "EX_UNAVAILABLE", "EX_USAGE",
    "F_LOCK", "F_OK", "F_TEST", "F_TLOCK", "F_ULOCK", "NGROUPS_MAX", "O_ACCMODE", "O_APPEND",
    "O_ASYNC", "O_CLOEXEC", "O_CREAT", "O_DIRECT", "O_DIRECTORY", "O_DSYNC", "O_EXCL", "O_FSYNC",
    "O_LARGEFILE", "O_NDELAY", "O_NOATIME", "O_NOCTTY", "O_NOFOLLOW", "O_NONBLOCK", "O_PATH",
    "O_RDONLY", "O_RDWR", "O_RSYNC", "O_SYNC", "O_TMPFILE", "O_TRUNC", "O_WRONLY",
    "POSIX_FADV_DONTNEED", "POSIX_FADV_NOREUSE", "POSIX_FADV_NORMAL", "POSIX_FADV_RANDOM",
    "POSIX_FADV_SEQUENTIAL", "POSIX_FADV_WILLNEED", "POSIX_SPAWN_CLOSE", "POSIX_SPAWN_DUP2",
    "POSIX_SPAWN_OPEN", "PRIO_PGRP", "PRIO_PROCESS", "PRIO_USER", "P_ALL", "P_NOWAIT",
    "P_NOWAITO", "P_PGID", "P_PID", "P_WAIT", "RTLD_DEEPBIND", "RTLD_GLOBAL", "RTLD_LAZY",
    "RTLD_LOCAL", "RTLD_NODELETE", "RTLD_NOLOAD", "RTLD_NOW", "R_OK", "SCHED_BATCH", "SCHED_FIFO",
    "SCHED_IDLE", "SCHED_OTHER", "SCHED_RESET_ON_FORK", "SCHED_RR", "SEEK_CUR", "SEEK_DATA",
    "SEEK_END", "SEEK_HOLE", "SEEK_SET", "SPLICE_F_MORE", "SPLICE_F_MOVE", "SPLICE_F_NONBLOCK",
    "ST_APPEND", "ST_MANDLOCK", "ST_NOATIME", "ST_NODEV", "ST_NODIRATIME", "ST_NOEXEC",
    "ST_NOSUID", "ST_RDONLY", "ST_RELATIME", "ST_SYNCHRONOUS", "ST_WRITE", "TMP_MAX",
    "WCONTINUED", "WCOREDUMP", "WEXITED", "WEXITSTATUS", "WIFCONTINUED", "WIFEXITED",
    "WIFSIGNALED", "WIFSTOPPED", "WNOHANG", "WNOWAIT", "WSTOPPED", "WSTOPSIG", "WTERMSIG",
    "WUNTRACED", "W_OK", "XATTR_CREATE", "XATTR_REPLACE", "XATTR_SIZE_MAX", "X_OK", "abort",
    "access", "altsep", "chdir", "chmod", "chown", "chroot", "close", "closerange", "confstr",
    "confstr_names", "cpu_count", "ctermid", "curdir", "defpath", "device_encoding", "devnull",
    "dup", "dup2", "environ", "environb", "eventfd", "eventfd_read", "eventfd_write", "execl",
    "execle", "execlp", "execlpe", "execv", "execve", "execvp", "execvpe", "extsep", "fchdir",
    "fchmod", "fchown", "fdatasync", "fdopen", "fork", "forkpty", "fpathconf", "fsdecode",
    "fsencode", "fspath", "fstat", "fstatvfs", "fsync", "ftruncate", "fwalk", "get_blocking",
    "get_exec_path", "get_inheritable", "get_terminal_size", "getcwd", "getcwdb", "getegid",
    "getenv", "getenvb", "geteuid", "getgid", "getgrouplist", "getgroups", "getloadavg",
    "getlogin", "getpgid", "getpgrp", "getpid", "getppid", "getpriority", "getresgid",
    "getresuid", "getsid", "getuid", "getxattr", "initgroups", "isatty", "kill", "killpg",
    "lchown", "linesep", "link", "listdir", "listxattr", "lockf", "login_tty", "lseek", "lstat",
    "major", "makedev", "makedirs", "minor", "mkdir", "mkfifo", "mknod", "name", "nice", "open",
    "openpty", "pardir", "pathconf", "pathconf_names", "pathsep", "pipe", "pipe2", "popen",
    "posix_fadvise", "posix_fallocate", "posix_spawn", "posix_spawnp", "pread", "preadv",
    "putenv", "pwrite", "pwritev", "read", "readlink", "readv", "register_at_fork", "remove",
    "removedirs", "removexattr", "rename", "renames", "replace", "rmdir", "scandir",
    "sched_get_priority_max", "sched_get_priority_min", "sched_getaffinity", "sched_getparam",
    "sched_getscheduler", "sched_rr_get_interval", "sched_setaffinity", "sched_setparam",
    "sched_setscheduler", "sched_yield", "sendfile", "sep", "set_blocking", "set_inheritable",
    "setegid", "seteuid", "setgid", "setgroups", "setpgid", "setpgrp", "setpriority", "setregid",
    "setresgid", "setresuid", "setreuid", "setsid", "setuid", "setxattr", "spawnl", "spawnle",
    "spawnlp", "spawnlpe", "spawnv", "spawnve", "spawnvp", "spawnvpe", "splice", "stat",
    "statvfs", "strerror", "supports_bytes_environ", "supports_dir_fd", "supports_effective_ids",
    "supports_fd", "supports_follow_symlinks", "symlink", "sync", "sysconf", "sysconf_names",
    "system", "tcgetpgrp", "tcsetpgrp", "times", "truncate", "ttyname", "umask", "uname",
    "unlink", "unsetenv", "urandom", "utime", "wait", "wait3", "wait4", "waitid", "waitpid",
    "waitstatus_to_exitcode", "walk", "write", "writev"]
  hidden := [
    "PathLike", "GenericAlias", "Mapping", "MutableMapping", "abc", "supports_dir_fd",
    "supports_effective_ids", "supports_fd", "supports_follow_symlinks"]

def systemPath : ModuleNames where
  name := "posixpath"
  classes := []
  modules := [
    ("os", "os")]
  values := [
    "abspath", "altsep", "basename", "commonpath", "commonprefix", "curdir", "defpath", "devnull",
    "dirname", "exists", "expanduser", "expandvars", "extsep", "getatime", "getctime", "getmtime",
    "getsize", "isabs", "isdir", "isfile", "islink", "ismount", "join", "lexists", "normcase",
    "normpath", "pardir", "pathsep", "realpath", "relpath", "samefile", "sameopenfile",
    "samestat", "sep", "split", "splitdrive", "splitext", "supports_unicode_filenames"]
  hidden := [
    "os"]

def json : ModuleNames where
  name := "json"
  classes := []
  renamed := [
    ("JSONDecodeError", "json.decoder.JSONDecodeError"), ("JSONDecoder", "json.decoder.JSONDecoder"),
    ("JSONEncoder", "json.encoder.JSONEncoder")]
  modules := [
    ("decoder", "json.decoder"), ("encoder", "json.encoder")]
  values := [
    "detect_encoding", "dump", "dumps", "load", "loads"]
  hidden := [
    "decoder", "encoder", "detect_encoding"]

def jsonDecoder : ModuleNames where
  name := "json.decoder"
  classes := [
    "JSONDecodeError", "JSONDecoder"]
  modules := [
    ("re", "re")]
  values := [
    "BACKSLASH", "FLAGS", "JSONArray", "JSONObject", "NaN", "NegInf", "PosInf", "STRINGCHUNK",
    "WHITESPACE", "WHITESPACE_STR", "c_scanstring", "py_scanstring", "scanstring"]
  hidden := [
    "re", "BACKSLASH", "FLAGS", "JSONArray", "JSONObject", "NaN", "NegInf", "PosInf",
    "STRINGCHUNK", "WHITESPACE", "WHITESPACE_STR", "c_scanstring", "py_scanstring", "scanstring"]

def jsonEncoder : ModuleNames where
  name := "json.encoder"
  classes := [
    "JSONEncoder"]
  renamed := [
    ("c_make_encoder", "_json.Encoder")]
  modules := [
    ("re", "re")]
  values := [
    "ESCAPE", "ESCAPE_ASCII", "ESCAPE_DCT", "HAS_UTF8", "INFINITY", "c_encode_basestring",
    "c_encode_basestring_ascii", "encode_basestring", "encode_basestring_ascii",
    "py_encode_basestring", "py_encode_basestring_ascii"]

def expressions : ModuleNames where
  name := "re"
  classes := [
    "Match", "Pattern", "RegexFlag", "Scanner", "error"]
  values := [
    "A", "ASCII", "DEBUG", "DOTALL", "I", "IGNORECASE", "L", "LOCALE", "M", "MULTILINE", "NOFLAG",
    "S", "T", "TEMPLATE", "U", "UNICODE", "VERBOSE", "X", "compile", "escape", "findall",
    "finditer", "fullmatch", "match", "purge", "search", "split", "sub", "subn", "template"]
  hidden := [
    "Scanner", "DEBUG", "T", "TEMPLATE"]

def future : ModuleNames where
  name := "__future__"
  classes := []
  values := [
    "CO_FUTURE_ABSOLUTE_IMPORT", "CO_FUTURE_ANNOTATIONS", "CO_FUTURE_BARRY_AS_BDFL",
    "CO_FUTURE_DIVISION", "CO_FUTURE_GENERATOR_STOP", "CO_FUTURE_PRINT_FUNCTION",
    "CO_FUTURE_UNICODE_LITERALS", "CO_FUTURE_WITH_STATEMENT", "CO_GENERATOR_ALLOWED", "CO_NESTED",
    "absolute_import", "all_feature_names", "annotations", "barry_as_FLUFL", "division",
    "generator_stop", "generators", "nested_scopes", "print_function", "unicode_literals",
    "with_statement"]
  hidden := [
    "CO_FUTURE_ABSOLUTE_IMPORT", "CO_FUTURE_ANNOTATIONS", "CO_FUTURE_BARRY_AS_BDFL",
    "CO_FUTURE_DIVISION", "CO_FUTURE_GENERATOR_STOP", "CO_FUTURE_PRINT_FUNCTION",
    "CO_FUTURE_UNICODE_LITERALS", "CO_FUTURE_WITH_STATEMENT", "CO_GENERATOR_ALLOWED", "CO_NESTED"]

/-- All of them. -/
def modules : List ModuleNames := [
  builtins, abstraction, typing, logging, system, systemPath, json, jsonDecoder, jsonEncoder,
  expressions, future]

end Exposure.Known
