/-!
# What is built in

The names of the classes, functions and methods that script code finds, and of the modules it can
import. A name that is listed here but does nothing yet is still there to be found.
-/

namespace ScriptShell.Script.Catalogue

def words (s : String) : List String := (s.toList.splitOn ' ').map String.ofList

/-- The exceptions, each with the one it is a kind of. -/
def exceptionParents : List (String × String) :=
  [("BaseException", "object"), ("Exception", "BaseException"), ("GeneratorExit", "BaseException"),
    ("KeyboardInterrupt", "BaseException"), ("SystemExit", "BaseException"),
    ("BaseExceptionGroup", "BaseException"), ("ExceptionGroup", "BaseExceptionGroup"),
    ("ArithmeticError", "Exception"), ("FloatingPointError", "ArithmeticError"),
    ("OverflowError", "ArithmeticError"), ("ZeroDivisionError", "ArithmeticError"),
    ("AssertionError", "Exception"), ("AttributeError", "Exception"), ("BufferError", "Exception"),
    ("EOFError", "Exception"), ("ImportError", "Exception"),
    ("ModuleNotFoundError", "ImportError"), ("LookupError", "Exception"),
    ("IndexError", "LookupError"), ("KeyError", "LookupError"), ("MemoryError", "Exception"),
    ("NameError", "Exception"), ("UnboundLocalError", "NameError"), ("OSError", "Exception"),
    ("BlockingIOError", "OSError"), ("ChildProcessError", "OSError"),
    ("ConnectionError", "OSError"), ("BrokenPipeError", "ConnectionError"),
    ("ConnectionAbortedError", "ConnectionError"), ("ConnectionRefusedError", "ConnectionError"),
    ("ConnectionResetError", "ConnectionError"), ("FileExistsError", "OSError"),
    ("FileNotFoundError", "OSError"), ("InterruptedError", "OSError"),
    ("IsADirectoryError", "OSError"), ("NotADirectoryError", "OSError"),
    ("PermissionError", "OSError"), ("ProcessLookupError", "OSError"), ("TimeoutError", "OSError"),
    ("ReferenceError", "Exception"), ("RuntimeError", "Exception"),
    ("NotImplementedError", "RuntimeError"), ("RecursionError", "RuntimeError"),
    ("StopAsyncIteration", "Exception"), ("StopIteration", "Exception"),
    ("SyntaxError", "Exception"), ("IndentationError", "SyntaxError"),
    ("TabError", "IndentationError"), ("SystemError", "Exception"), ("TypeError", "Exception"),
    ("ValueError", "Exception"), ("UnicodeError", "ValueError"),
    ("UnicodeDecodeError", "UnicodeError"), ("UnicodeEncodeError", "UnicodeError"),
    ("UnicodeTranslateError", "UnicodeError"), ("Warning", "Exception"),
    ("BytesWarning", "Warning"), ("DeprecationWarning", "Warning"), ("EncodingWarning", "Warning"),
    ("FutureWarning", "Warning"), ("ImportWarning", "Warning"),
    ("PendingDeprecationWarning", "Warning"), ("ResourceWarning", "Warning"),
    ("RuntimeWarning", "Warning"), ("SyntaxWarning", "Warning"), ("UnicodeWarning", "Warning"),
    ("UserWarning", "Warning")]

/-- Other names of exceptions. -/
def exceptionAliases : List (String × String) :=
  [("IOError", "OSError"), ("EnvironmentError", "OSError")]

/-- The classes that are no exceptions. -/
def classes : List String :=
  words ("bool bytearray bytes classmethod complex dict enumerate filter float frozenset int list " ++
    "map memoryview object property range reversed set slice staticmethod str super tuple type zip")

/-- The functions. -/
def functions : List String :=
  words ("abs aiter all anext any ascii bin breakpoint callable chr compile copyright credits " ++
    "delattr dir divmod eval exec format getattr globals hasattr hash help hex id input " ++
    "isinstance issubclass iter len license locals max min next oct open ord pow print repr " ++
    "round setattr sorted sum vars __import__")

/-- The methods and attributes of the values of a class. -/
def attributes : List (String × List String) :=
  [("str", words ("capitalize casefold center count encode endswith expandtabs find format " ++
      "format_map index isalnum isalpha isascii isdecimal isdigit isidentifier islower " ++
      "isnumeric isprintable isspace istitle isupper join ljust lower lstrip maketrans " ++
      "partition removeprefix removesuffix replace rfind rindex rjust rpartition rsplit rstrip " ++
      "split splitlines startswith strip swapcase title translate upper zfill")),
    ("bytes", words ("capitalize center count decode endswith expandtabs find fromhex hex index " ++
      "isalnum isalpha isascii isdigit islower isspace istitle isupper join ljust lower lstrip " ++
      "maketrans partition removeprefix removesuffix replace rfind rindex rjust rpartition " ++
      "rsplit rstrip split splitlines startswith strip swapcase title translate upper zfill")),
    ("list", words "append clear copy count extend index insert pop remove reverse sort"),
    ("tuple", words "count index"),
    ("dict", words "clear copy fromkeys get items keys pop popitem setdefault update values"),
    ("set", words ("add clear copy difference difference_update discard intersection " ++
      "intersection_update isdisjoint issubset issuperset pop remove symmetric_difference " ++
      "symmetric_difference_update union update")),
    ("int", words ("as_integer_ratio bit_count bit_length conjugate denominator from_bytes imag " ++
      "numerator real to_bytes")),
    ("bool", words ("as_integer_ratio bit_count bit_length conjugate denominator from_bytes imag " ++
      "numerator real to_bytes")),
    ("float", words "as_integer_ratio conjugate fromhex hex imag is_integer real"),
    ("range", words "count index start step stop"),
    ("generator", words "close send throw"),
    ("TextIOWrapper", words "close flush isatty read readline write writelines")]

/-- The modules that can be imported without a file. -/
def modules : List String :=
  words ("abc aifc antigravity argparse array ast asynchat asyncio asyncore atexit audioop base64 " ++
    "bdb binascii bisect builtins bz2 cProfile calendar cgi cgitb chunk cmath cmd code codecs " ++
    "codeop collections colorsys compileall concurrent configparser contextlib contextvars copy " ++
    "copyreg crypt csv ctypes curses dataclasses datetime dbm decimal difflib dis distutils " ++
    "doctest email encodings ensurepip enum errno faulthandler fcntl filecmp fileinput fnmatch " ++
    "fractions ftplib functools gc genericpath getopt getpass gettext glob graphlib grp gzip " ++
    "hashlib heapq hmac html http idlelib imaplib imghdr imp importlib inspect io ipaddress " ++
    "itertools json keyword lib2to3 linecache locale logging lzma mailbox mailcap marshal math " ++
    "mimetypes mmap modulefinder multiprocessing netrc nis nntplib ntpath nturl2path numbers " ++
    "opcode operator optparse ossaudiodev pathlib pdb pickle pickletools pipes pkgutil platform " ++
    "plistlib poplib posix posixpath pprint profile pstats pty pwd py_compile pyclbr pydoc " ++
    "pydoc_data pyexpat queue quopri random re readline reprlib resource rlcompleter runpy " ++
    "sched secrets select selectors shelve shlex shutil signal site smtpd smtplib sndhdr socket " ++
    "socketserver spwd sqlite3 sre_compile sre_constants sre_parse ssl stat statistics string " ++
    "stringprep struct subprocess sunau symtable sysconfig syslog tabnanny tarfile telnetlib " ++
    "tempfile termios textwrap this threading time timeit tkinter token tokenize tomllib trace " ++
    "traceback tracemalloc tty turtle types typing unicodedata unittest urllib uu uuid venv " ++
    "warnings wave weakref webbrowser wsgiref xdrlib xml xmlrpc zipapp zipfile zipimport zlib " ++
    "zoneinfo __future__")

/-- Whether a class is an exception. -/
def isException (name : String) : Bool := (exceptionParents.lookup name).isSome

/-- Whether a built-in class is another or a kind of it. -/
def isKind : Nat → String → String → Bool
  | 0, a, b => a == b
  | fuel + 1, a, b =>
    a == b || b == "object" || (a == "bool" && b == "int") ||
      match exceptionParents.lookup a with
      | some parent => isKind fuel parent b
      | none => false

/-- Whether one class is another or a kind of it, however far up. -/
def isKindOf (a b : String) : Bool := isKind 10 a b

end ScriptShell.Script.Catalogue
