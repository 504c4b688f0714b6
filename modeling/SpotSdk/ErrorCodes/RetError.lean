import SpotSdk.Common.Status
import SpotSdk.DataChunk.DataChunking
import SpotSdk.Foundations.BufferBlocks

/-!
# Error messages in a bounded buffer

A `RetError` holds an error code and its message in a buffer of fixed size, with the
length of the message kept beside it. A function is absent where it would access a byte
outside the buffer. Context is put before the message in place: the old message is first
moved to the end of the buffer in reverse, and read back from there.
-/

namespace SpotSdk.Client

open SpotSdk.Common SpotSdk.Foundations

/-- The bytes of a C string before the byte that ends it. -/
abbrev CString := {text : List UInt8 // 0 ∉ text}

/-- The members of `RetError`; `m_buffer_size` is the length of the buffer. -/
structure RetError where
  code : ErrorCode
  buffer : List UInt8
  msgLen : Nat
  deriving DecidableEq

/-- `std::error_code()`. -/
def noErrorCode : ErrorCode := ⟨systemCategory, 0⟩

/-- `RetErrorBuf<sz>()`. -/
def retErrorBuf (sz : Nat) : RetError := ⟨noErrorCode, List.replicate sz 0, 0⟩

namespace RetError

def bufferSize (err : RetError) : Nat := err.buffer.length

/-- `IsError()`; a code converts to true when its value is not zero. -/
def isError (err : RetError) : Bool := err.code.value != 0

/-- The characters of `ErrMsg()`, up to the first NUL. -/
def errMsg (err : RetError) : List UInt8 :=
  if err.isError then err.buffer.takeWhile (· != 0) else "(no error)".toUTF8.toList

/-- The bytes that the length claims for the message. -/
def message (err : RetError) : List UInt8 := err.buffer.take err.msgLen

end RetError

/-- `reverseAndMove`, with the positions of its pointers in the buffer. -/
def reverseAndMove (buffer : List UInt8) (dst src len : Nat) : Option (List UInt8) :=
  if dst < src ∧ src ≤ dst + len then
    let overlapBytes := dst + len - src
    let nonoverlapBytes := len - overlapBytes
    (reverseBlock buffer src overlapBytes).bind
      (moveReversed dst (src + overlapBytes) nonoverlapBytes nonoverlapBytes)
  else if src ≤ dst ∧ dst < src + len then
    let overlapBytes := src + len - dst
    let nonoverlapBytes := len - overlapBytes
    (reverseBlock buffer dst overlapBytes).bind
      (moveReversed (dst + overlapBytes) src nonoverlapBytes nonoverlapBytes)
  else
    moveReversed dst src len len buffer

/-- `vsnprintf(m_buffer, m_buffer_size, …)` for the formatted text: it writes what fits and
a NUL, and returns the length the text has. -/
def vsnprintf (buffer : List UInt8) (text : CString) : Option (List UInt8 × Int) :=
  (writeBlock buffer 0 (text.val.take (buffer.length - 1) ++ [0])).map (·, text.val.length)

/-- `strncpy(dst, src, n)`: up to `n` bytes of the string, then NUL bytes up to `n`. It is
absent if the source ends before a NUL and before `n` bytes. -/
def strncpy (dst src : List UInt8) (n : Nat) : Option (List UInt8) :=
  let text := (src.takeWhile (· != 0)).take n
  if text.length = src.length ∧ text.length < n then none
  else writeBlock dst 0 (text ++ List.replicate (n - text.length) 0)

namespace RetError

/-- `CopyFrom(err)`. It does not copy the length. -/
def copyFrom (self err : RetError) : Option RetError := do
  let buffer ← strncpy self.buffer err.buffer self.bufferSize
  pure { self with code := err.code, buffer := buffer }

/-- `Reset()`. -/
def reset (self : RetError) : Option RetError := do
  let buffer ← writeBlock self.buffer 0 [0]
  pure { code := noErrorCode, buffer := buffer, msgLen := 0 }

/-- `SetErrorLen(code, len, msg)`. -/
def setErrorLen (self : RetError) (code : ErrorCode) (len : Int) (msg : CString) :
    Option RetError :=
  let self := { self with code := code }
  let len := min len (self.bufferSize - 1)
  if len < 0 then some self
  else do
    let buffer ← writeBlock self.buffer 0 (msg.val.take len.toNat)
    let buffer ← writeBlock buffer len.toNat [0]
    pure { self with buffer := buffer, msgLen := len.toNat }

/-- `SetErrorv(code, msg_fmt, args)` for the text that they format to. -/
def setErrorv (self : RetError) (code : ErrorCode) (text : CString) : Option RetError := do
  let (buffer, bytes) ← vsnprintf self.buffer text
  let msgLen :=
    if bytes < 0 then self.bufferSize
    else if self.bufferSize < bytes then self.bufferSize
    else bytes.toNat
  pure { code := code, buffer := buffer, msgLen := msgLen }

/-- `SetErrorf(code, msg_fmt, …)`. -/
def setErrorf (self : RetError) (code : ErrorCode) (text : CString) : Option RetError :=
  self.setErrorv code text

/-- `SetError(code, msg)`. -/
def setError (self : RetError) (code : ErrorCode) (msg : CString) : Option RetError :=
  self.setErrorLen code (lengthAsInt msg.val.length) msg

/-- `std::error_code(errno, std::system_category())`. -/
def errnoCode (errno : Int) : ErrorCode := ⟨systemCategory, errno⟩

/-- `SetErrorFromErrno(msg)`. -/
def setErrorFromErrno (self : RetError) (errno : Int) (msg : CString) : Option RetError :=
  self.setErrorLen (errnoCode errno) (lengthAsInt msg.val.length) msg

/-- `SetErrorFromErrnov(msg_fmt, args)`. -/
def setErrorFromErrnov (self : RetError) (errno : Int) (text : CString) : Option RetError :=
  self.setErrorv (errnoCode errno) text

/-- `SetErrorFromErrnof(msg_fmt, …)`. -/
def setErrorFromErrnof (self : RetError) (errno : Int) (text : CString) : Option RetError :=
  self.setErrorv (errnoCode errno) text

/-- `CacheMsg()`: the buffer it leaves, and the length it returns. -/
def cacheMsg (self : RetError) : Option (RetError × Nat) :=
  let prevLen := self.msgLen
  if self.bufferSize < prevLen then none
  else do
    let buffer ← reverseAndMove self.buffer (self.bufferSize - prevLen) 0 prevLen
    pure ({ self with buffer := buffer }, prevLen)

/-- `MIN_SIZE`, room for `":\n "` and a NUL. -/
def minSize : Nat := 4

/-- The bytes of `":\n "`. -/
def separator : List UInt8 := [58, 10, 32]

/-- `UnCacheMsg(cached_len, bytes_added)`. -/
def unCacheMsg (self : RetError) (cachedLen bytesAdded : Nat) : Option RetError :=
  if self.bufferSize < minSize then some { self with msgLen := bytesAdded }
  else do
    let newBytes := min bytesAdded (self.bufferSize - minSize)
    let buffer ← writeBlock self.buffer newBytes separator
    let newBytes := newBytes + 3
    let restoreBytes := min cachedLen (self.bufferSize - 1 - newBytes)
    let buffer ←
      reverseAndMove buffer newBytes (self.bufferSize - restoreBytes) restoreBytes
    let buffer ← writeBlock buffer (newBytes + restoreBytes) [0]
    pure { self with buffer := buffer, msgLen := newBytes + restoreBytes }

/-- `AddContextLen(len, msg)`. -/
def addContextLen (self : RetError) (len : Int) (msg : CString) : Option RetError :=
  if !self.isError then some self
  else
    let len := min len (self.bufferSize - 1)
    if len < 0 then some self
    else do
      let (self, prevLen) ← self.cacheMsg
      let buffer ← writeBlock self.buffer 0 (msg.val.take len.toNat)
      unCacheMsg { self with buffer := buffer } prevLen len.toNat

/-- `AddContextv(context_fmt, args)` for the text that they format to. -/
def addContextv (self : RetError) (text : CString) : Option RetError :=
  if !self.isError then some self
  else do
    let (self, prevLen) ← self.cacheMsg
    let (buffer, bytes) ← vsnprintf self.buffer text
    let newBytes := if 0 ≤ bytes then bytes.toNat else self.bufferSize
    unCacheMsg { self with buffer := buffer } prevLen newBytes

/-- `AddContextf(context_fmt, …)`. -/
def addContextf (self : RetError) (text : CString) : Option RetError :=
  if self.isError then self.addContextv text else some self

/-- `AddContext(context)`; a null pointer is absent. -/
def addContext (self : RetError) : Option CString → Option RetError
  | none => some self
  | some context =>
      if self.isError then self.addContextLen (lengthAsInt context.val.length) context
      else some self

end RetError

end SpotSdk.Client
