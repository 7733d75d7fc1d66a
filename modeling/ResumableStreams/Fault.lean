import ResumableStreams.Exchange
import ResumableStreams.Text.Integer
import ResumableStreams.Text.Quoted
import ResumableStreams.Text.Encoding

namespace ResumableStreams

/-!
# What can go wrong

A `StreamError` is what a machine reports as its result.  A `Fault` is what
stops a runtime, a constructor or a stream operation: a reported error that a
driver passes on, a refused argument, or a failure of the transport.  Each
has one constructor for each cause, and its wording in one place.
-/

/-- The machines that are built from others and wrap their errors. -/
inductive Composition where
  | readExact
  | readToEnd
  | writeAll
  deriving DecidableEq

/-- The errors that machines report. -/
inductive StreamError where
  /-- An error with nothing but a text. -/
  | plain (text : String)
  /-- A machine was resumed with an exchange for the other direction.  The
  description is taken when the error arises; the buffer of `got` may change
  later. -/
  | invalidArgument (expected : String) (got : Exchange) (description : String)
  /-- An error of the inner machine under the name of the outer one.  The source
  is also the cause of the error.  Without a text of its own the error takes over
  the text of its source. -/
  | wrapping (outer : Composition) (source : StreamError) (text : Option String)
  /-- An error of an outer machine that has no inner error behind it. -/
  | unsourced (outer : Composition) (text : Option String)
  /-- The stream ended `remaining` bytes before the `expected` number was
  reached; `partialBytes` are those that came. -/
  | unexpectedEnd (remaining expected : Int) (partialBytes : Buffer)
  /-- The stream took nothing while `remaining` of `total` bytes were left. -/
  | writeZero (remaining total written : Int)

def StreamError.message : StreamError -> String
  | .plain text => text
  | .invalidArgument expected _ description =>
    s!"Invalid argument: expected {expected}, got {description}"
  | .wrapping _ source text => text.getD source.message
  | .unsourced _ text => text.getD "None"
  | .unexpectedEnd remaining expected _ =>
    s!"Unexpected EOF, expected to read {remaining}/{expected} more bytes"
  | .writeZero remaining total _ =>
    s!"Write zero, {remaining}/{total} bytes could not be written"

/-- The error that an outer machine reports for an error of its inner one. -/
def StreamError.wrap (outer : Composition) (source : StreamError) : StreamError :=
  .wrapping outer source none

@[simp] theorem StreamError.message_wrap (outer : Composition) (source : StreamError) :
    (StreamError.wrap outer source).message = source.message := rfl

/-- Refusals of the operating system when a file is opened or a socket used. -/
inductive SystemRefusal where
  | notFound (path : String)
  | alreadyExists (path : String)
  | notDirectory (path : String)
  | isDirectory (path : String)
  | nameTooLong (path : String)
  | wouldBlock
  | brokenPipe
  | badDescriptor
  | connectionReset
  deriving DecidableEq

def SystemRefusal.message : SystemRefusal -> String
  | .notFound path => s!"[Errno 2] No such file or directory: {Text.quoted path}"
  | .alreadyExists path => s!"[Errno 17] File exists: {Text.quoted path}"
  | .notDirectory path => s!"[Errno 20] Not a directory: {Text.quoted path}"
  | .isDirectory path => s!"[Errno 21] Is a directory: {Text.quoted path}"
  | .nameTooLong path => s!"[Errno 36] File name too long: {Text.quoted path}"
  | .wouldBlock => "[Errno 11] Resource temporarily unavailable"
  | .brokenPipe => "[Errno 32] Broken pipe"
  | .badDescriptor => "[Errno 9] Bad file descriptor"
  | .connectionReset => "[Errno 104] Connection reset by peer"

/-- Failures to get a body over HTTP. -/
inductive TransportFailure where
  | notConnected (reason : String)
  | refusedStatus (status : Int)
  | brokenBody (url reason : String)
  deriving DecidableEq

def TransportFailure.message : TransportFailure -> String
  | .notConnected reason => s!"GET request failed: {reason}"
  | .refusedStatus status => s!"GET request failed with status {status}"
  | .brokenBody url reason => s!"reading body of {url} failed: {reason}"

/-- Ways in which a stream made for one runtime fails in the hands of the
other. -/
inductive Misuse where
  /-- A promise was taken for a count and compared with numbers. -/
  | promiseCompared
  /-- A promise was taken for a count and added. -/
  | promiseAdded
  /-- A promise was taken for bytes and measured. -/
  | promiseMeasured
  /-- Something of the named kind was taken for a promise. -/
  | notAwaitable (kind : String)
  deriving DecidableEq

def Misuse.message : Misuse -> String
  | .promiseCompared => "'<=' not supported between instances of 'int' and 'coroutine'"
  | .promiseAdded => "unsupported operand type(s) for +=: 'int' and 'coroutine'"
  | .promiseMeasured => "object of type 'coroutine' has no len()"
  | .notAwaitable kind => s!"object {kind} can't be used in 'await' expression"

/-- Modes in which no file can be opened. -/
inductive BadMode where
  | containsNull
  | unknown (mode : String)
  | textAndBinary
  | severalPurposes
  | noPurpose
  deriving DecidableEq

def BadMode.message : BadMode -> String
  | .containsNull => "embedded null character"
  | .unknown mode => s!"invalid mode: '{mode}'"
  | .textAndBinary => "can't have text and binary mode at once"
  | .severalPurposes => "must have exactly one of create/read/write/append mode"
  | .noPurpose =>
    "Must have exactly one of create/read/write/append mode and at most one plus"

/-- Everything that stops a constructor, a runtime or a stream operation. -/
inductive Fault where
  /-- An error reported by a machine, passed on by its driver. -/
  | reported (error : StreamError)
  | negativeCapacity (capacity : Int)
  | capacityNotPositive (capacity : Int)
  | negativeTarget (target : Int)
  /-- A buffer of this length could not even be addressed. -/
  | lengthNotAddressable
  /-- A buffer of this length exceeds any memory. -/
  | outOfMemory
  | countOutOfRange (size : Nat) (count : Int)
  /-- The buffer of a response was asked for. -/
  | carriesOutput (description : String)
  /-- The output of a request was asked for. -/
  | carriesBuffer (description : String)
  | byteOutOfRange
  /-- An immutable buffer was given to an operation that fills its argument. -/
  | immutableArgument (operation : String)
  /-- A part of immutable bytes was to be replaced. -/
  | immutableBytes
  /-- Bytes of a buffer were to be replaced by characters. -/
  | charactersForBytes
  /-- Bytes of the named kind were to be written where text belongs. -/
  | bytesForText (kind : String)
  /-- Bytes do not encode any text. -/
  | notText (fault : Text.EncodingFault)
  /-- Something of the named kind was to be opened as if it were a path. -/
  | notAPath (kind : String)
  | misuse (reason : Misuse)
  | transport (failure : TransportFailure)
  | notAnInteger (text : String)
  | tooManyDigits (count : Nat)
  /-- An integer was to be written that has too many digits. -/
  | overlongInteger
  | system (refusal : SystemRefusal)
  /-- A failure of the operating system with a text of its own. -/
  | systemText (text : String)
  | connectionReset (text : String)
  | unreadable
  | unwritable
  | unsupported (operation : String)
  | closedFile
  | badMode (mode : BadMode)
  | nullInPath
  /-- An object of the named kind has no such operation. -/
  | lacks (kind operation : String)
  /-- Objects of the named kind cannot be built in this way. -/
  | lacksConstructor (kind name : String)
  /-- A constructor was not given these arguments. -/
  | missingArguments (constructor : String) (names : List String)
  /-- A constructor was given an argument that it does not take. -/
  | unexpectedArgument (constructor name : String)
  /-- A failure of the named kind, prescribed by a scripted stream. -/
  | scripted (kind text : String)
  /-- A driver reached its limit before the machine had finished. -/
  | unfinished

def Fault.message : Fault -> String
  | .reported error => error.message
  | .negativeCapacity capacity =>
    Text.showing [capacity] s!"capacity cannot be negative, got {capacity}"
  | .capacityNotPositive capacity =>
    Text.showing [capacity] s!"capacity must be positive, got {capacity}"
  | .negativeTarget target => Text.showing [target] s!"max_bytes cannot be negative, got {target}"
  | .lengthNotAddressable => "cannot fit 'int' into an index-sized integer"
  | .outOfMemory => ""
  | .countOutOfRange size count =>
    Text.showing [count] s!"bytes_count must be within 0..{size}, got {count}"
  | .carriesOutput description => s!"{description} carries an output, not a buffer"
  | .carriesBuffer description => s!"{description} carries a buffer, not an output"
  | .byteOutOfRange => "byte must be in range(0, 256)"
  | .immutableArgument operation =>
    s!"{operation} must be read-write bytes-like object, not bytes"
  | .immutableBytes => "'bytes' object does not support item assignment"
  | .charactersForBytes =>
    "can assign only bytes, buffers, or iterables of ints in range(0, 256)"
  | .bytesForText kind => s!"write() argument must be str, not {kind}"
  | .notText fault => fault.message
  | .notAPath kind => s!"expected str, bytes or os.PathLike object, not {kind}"
  | .misuse reason => reason.message
  | .transport failure => failure.message
  | .notAnInteger text =>
    "invalid literal for int() with base 10: " ++ ((Text.quoted text).take 200).toString
  | .tooManyDigits count =>
    s!"Exceeds the limit ({Text.digitLimit} digits) for integer string conversion: value has " ++
      s!"{count} digits; use sys.set_int_max_str_digits() to increase the limit"
  | .overlongInteger => Text.overlong
  | .system refusal => refusal.message
  | .systemText text => text
  | .connectionReset text => text
  | .unreadable => "stream is not readable"
  | .unwritable => "stream is not writable"
  | .unsupported operation => operation
  | .closedFile => "I/O operation on closed file."
  | .badMode mode => mode.message
  | .nullInPath => "embedded null byte"
  | .lacks kind operation => s!"'{kind}' object has no attribute '{operation}'"
  | .lacksConstructor kind name => s!"type object '{kind}' has no attribute '{name}'"
  | .missingArguments constructor names =>
    s!"{constructor}() missing {names.length} required positional argument" ++
      (if names.length = 1 then ": " else "s: ") ++
      " and ".intercalate (names.map fun name => s!"'{name}'")
  | .unexpectedArgument constructor name =>
    s!"{constructor}() got an unexpected keyword argument '{name}'"
  | .scripted _ text => text
  | .unfinished => "the machine had not finished when the limit was reached"

/-- The failure of a request whose status is refused.  The text shows the status. -/
def Fault.refused (status : Int) : Fault :=
  if Text.Writable status then .transport (.refusedStatus status) else .overlongInteger

/-- The integers in the text of an error. -/
def StreamError.shown : StreamError -> List Int
  | .unexpectedEnd remaining expected _ => [remaining, expected]
  | .writeZero remaining total _ => [remaining, total]
  | .plain _ | .invalidArgument _ _ _ | .wrapping _ _ _ | .unsourced _ _ => []

/-- Build an error.  Its text is made at once, so there is none with an integer in
it that cannot be written. -/
def StreamError.build (error : StreamError) : Except Fault StreamError :=
  if ∀ number ∈ error.shown, Text.Writable number then .ok error else .error .overlongInteger

/-- Make an output around a buffer.  The count must lie within the buffer. -/
def Output.make (buffer : Buffer) (count : Int) (memory : Memory) : Except Fault Output :=
  if 0 ≤ count ∧ count ≤ buffer.size memory then .ok ⟨buffer, count.toNat⟩
  else .error (.countOutOfRange (buffer.size memory) count)

/-- Give a buffer new contents in place, which only a mutable one allows. -/
def Buffer.assign (buffer : Buffer) (bytes : Bytes) (memory : Memory) : Except Fault Memory :=
  match buffer with
  | .frozen _ => .error .immutableBytes
  | .shared cell => .ok (memory.store cell bytes)

/-- The buffer to fill or drain, if the exchange is a request. -/
def Exchange.requested (exchange : Exchange) (memory : Memory) : Except Fault Buffer :=
  match exchange.payload with
  | .request buffer => .ok buffer
  | .response _ => .error (.carriesOutput (exchange.describe memory))

/-- The output, if the exchange is a response. -/
def Exchange.output (exchange : Exchange) (memory : Memory) : Except Fault Output :=
  match exchange.payload with
  | .request _ => .error (.carriesBuffer (exchange.describe memory))
  | .response output => .ok output

end ResumableStreams
