import RasterText.Settings

/-!
# Errors

What can go wrong in a conversion.  Every error is a cause with its data; the
wording is in `Error.message` alone.
-/

namespace RasterText

inductive IoFailure where
  | notFound
  | permissionDenied
  | connectionRefused
  | connectionReset
  | hostUnreachable
  | networkUnreachable
  | connectionAborted
  | notConnected
  | addrInUse
  | addrNotAvailable
  | networkDown
  | brokenPipe
  | alreadyExists
  | wouldBlock
  | notADirectory
  | isADirectory
  | directoryNotEmpty
  | readOnlyFilesystem
  | filesystemLoop
  | staleNetworkFileHandle
  | invalidInput
  | invalidData
  | timedOut
  | writeZero
  | storageFull
  | notSeekable
  | quotaExceeded
  | fileTooLarge
  | resourceBusy
  | executableFileBusy
  | deadlock
  | crossesDevices
  | tooManyLinks
  | invalidFilename
  | argumentListTooLong
  | interrupted
  | unsupported
  | unexpectedEof
  | outOfMemory
  | inProgress
  | other
  | uncategorized
deriving DecidableEq, Repr

/-- Why no image came out of a file: it could not be read, its format or a feature of
it is not known, its content is not of that format, it cannot be brought into the form
that is asked for, the image is too large, or the parts of the file do not fit
together. -/
inductive LoadFailure where
  | io (failure : IoFailure)
  | unsupported
  | undecodable
  | unencodable
  | tooLarge
  | unfitting
deriving DecidableEq

inductive Error where
  | load (path : String) (failure : LoadFailure)
  | emptyImage (width height : Nat)
  | rowOutOfRange (y height : Nat)
  | invalidSettings (fault : SettingsFault)
  | io (failure : IoFailure)
deriving DecidableEq

/-- What lies behind a failed load or a failed write is told apart from the wording. -/
def Error.message : Error → String
  | .load path _ => s!"failed to load image {path}"
  | .emptyImage width height => s!"image has no pixels ({width}x{height})"
  | .rowOutOfRange y height => s!"row {y} is outside an image {height} pixels high"
  | .invalidSettings fault => s!"invalid configuration: {fault.message}"
  | .io _ => "failed to write output"

end RasterText
