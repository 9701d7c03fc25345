import StyleLift.Files.Tree
import StyleLift.Markup.ClassNames
import StyleLift.Shell.Words
import StyleLift.Utility.Shorthand

/-! # Faults

What can go wrong while the program works, by cause. A fault has a kind, which messages and error
details name, and a message. Faults that come from outside carry their kind with them.
-/
namespace StyleLift

/-- Failures below a request over the network. -/
inductive NetworkKind
  | readTimeout
  | connectTimeout
  | writeTimeout
  | poolTimeout
  | connect
  | read
  | write
  | close
  | localProtocol
  | remoteProtocol
  | unsupportedProtocol
  | proxy
  | decoding
  | tooManyRedirects
  /-- Faults of a sort, where no more is known. -/
  | timeout
  | network
  | protocol
  | transport
  | request
  | exchange
  | stream
  | cookies
deriving DecidableEq

inductive Kind
  | badValue
  | missingKey
  | runtime
  | wrongType
  | system
  | noSuchFile
  | notPermitted
  | isDirectory
  | notDirectory
  | noSuchMember
  | outOfRange
  | unencodable
  | undecodable
  | malformedText
  | brokenAssumption
  | timeExpired
  | recursion
  | malformedJson
  | malformedUrl
  | rejectedMarkup
  | general
  | compiler
  | capture
  | invalidArgument
  | unsupportedTarget
  | transport
  | tool
  | browser
  | network (kind : NetworkKind)
  /-- A kind that the program does not know but by its name. -/
  | foreign (name : Text)
deriving DecidableEq

def NetworkKind.name : NetworkKind → Text
  | .readTimeout => "ReadTimeout"
  | .connectTimeout => "ConnectTimeout"
  | .writeTimeout => "WriteTimeout"
  | .poolTimeout => "PoolTimeout"
  | .connect => "ConnectError"
  | .read => "ReadError"
  | .write => "WriteError"
  | .close => "CloseError"
  | .localProtocol => "LocalProtocolError"
  | .remoteProtocol => "RemoteProtocolError"
  | .unsupportedProtocol => "UnsupportedProtocol"
  | .proxy => "ProxyError"
  | .decoding => "DecodingError"
  | .tooManyRedirects => "TooManyRedirects"
  | .timeout => "TimeoutException"
  | .network => "NetworkError"
  | .protocol => "ProtocolError"
  | .transport => "TransportError"
  | .request => "RequestError"
  | .exchange => "HTTPError"
  | .stream => "StreamError"
  | .cookies => "CookieConflict"

def Kind.name : Kind → Text
  | .badValue => "ValueError"
  | .missingKey => "KeyError"
  | .runtime => "RuntimeError"
  | .wrongType => "TypeError"
  | .system => "OSError"
  | .noSuchFile => "FileNotFoundError"
  | .notPermitted => "PermissionError"
  | .isDirectory => "IsADirectoryError"
  | .notDirectory => "NotADirectoryError"
  | .noSuchMember => "AttributeError"
  | .outOfRange => "IndexError"
  | .unencodable => "UnicodeEncodeError"
  | .undecodable => "UnicodeDecodeError"
  | .malformedText => "UnicodeError"
  | .brokenAssumption => "AssertionError"
  | .timeExpired => "TimeoutExpired"
  | .recursion => "RecursionError"
  | .malformedJson => "JSONDecodeError"
  | .malformedUrl => "InvalidURL"
  | .rejectedMarkup => "ParserRejectedMarkup"
  | .general => "DesignCopierError"
  | .compiler => "CompilerError"
  | .capture => "CaptureError"
  | .invalidArgument => "InvalidArgumentError"
  | .unsupportedTarget => "UnsupportedTargetError"
  | .transport => "TransportError"
  | .tool => "ToolError"
  | .browser => "Error"
  | .network kind => kind.name
  | .foreign name => name

/-- A failed compilation: the compiler's exit status and error output, as far as it came to that. -/
structure CompilerError where
  message : Text
  status : Option Int
  stderr : Text
  cause : Option Kind
deriving DecidableEq

/-- Whether the caller or the tool is to blame for a failed call. -/
inductive ErrorCode
  | invalidParams
  | methodNotFound
  | internalError
deriving DecidableEq

def ErrorCode.name : ErrorCode → Text
  | .invalidParams => "invalid_params"
  | .methodNotFound => "method_not_found"
  | .internalError => "internal_error"

def ErrorCode.all : List ErrorCode := [.invalidParams, .methodNotFound, .internalError]

def ErrorCode.ofName? (name : Text) : Option ErrorCode := all.find? (·.name == name)

structure ToolError where
  code : ErrorCode
  message : Text
  cause : Option Kind
deriving DecidableEq

inductive Fault
  | numeral (e : NumeralError)
  | splitting (e : Shell.SplitError)
  | notShorthand (e : Shorthand.NotShorthand)
  | rejectedMarkup (r : Markup.Rejection)
  | compiler (e : CompilerError)
  | tool (e : ToolError)
  | general (message : Text)
  | capture (message : Text) (cause : Option Kind)
  | invalidArgument (message : Text)
  | unsupportedTarget (message : Text)
  | transport (message : Text) (cause : Option Kind)
  | missingKey (key : Text)
  | other (kind : Kind) (message : Text)

namespace Fault

def kind : Fault → Kind
  | .numeral _ | .splitting _ | .notShorthand _ => .badValue
  | .rejectedMarkup _ => .rejectedMarkup
  | .compiler _ => .compiler
  | .tool _ => .tool
  | .general _ => .general
  | .capture _ _ => .capture
  | .invalidArgument _ => .invalidArgument
  | .unsupportedTarget _ => .unsupportedTarget
  | .transport _ _ => .transport
  | .missingKey _ => .missingKey
  | .other kind _ => kind

def message : Fault → Text
  | .numeral e => e.message
  | .splitting e => e.message
  | .notShorthand e => e.message
  | .rejectedMarkup r => r.message
  | .compiler e => e.message
  | .tool e => e.message
  | .general m | .capture m _ | .invalidArgument m | .unsupportedTarget m | .transport m _ => m
  | .missingKey key => key.quoted
  | .other _ m => m

def ofDocument : Markup.DocumentError → Fault
  | .rejected r => .rejectedMarkup r
  | .numeral e => .numeral e

/-- The fault of a path, with the number that the system has for it. -/
def ofPath (path : Text) : FileTree.PathError → Fault
  | .missing =>
    .other .noSuchFile (Text.ofString "[Errno 2] No such file or directory: " ++ path.quoted)
  | .notDirectory =>
    .other .notDirectory (Text.ofString "[Errno 20] Not a directory: " ++ path.quoted)
  | .isDirectory =>
    .other .isDirectory (Text.ofString "[Errno 21] Is a directory: " ++ path.quoted)
  | .nameTooLong =>
    .other .system (Text.ofString "[Errno 36] File name too long: " ++ path.quoted)
  | .holdsNull => .other .badValue "embedded null byte"

end Fault
end StyleLift
