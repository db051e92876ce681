import PlasmaStream.Basic

/-!
# Errors and response codes

`errors.rs` of plasma-stream and of plasma-store: the errors of a sender, of a receiver and of a
SYNC, each with the one-byte response code it is reported under, and `PeerResult`, the client's
reading of a response byte. The `Display` texts only feed the log and are left out.

`receiveResponseCode_eq_success`: no error of this server's own is reported as `SUCCESS`; only
a code a peer sent, forwarded verbatim as `PeerError`, can be.
-/

namespace PlasmaStream

/-- `PlasmaError`. -/
inductive PlasmaError where
  | connectError (msg : String)
  | alreadyExists
  | alreadySealed
  | notMutable
  | unknownError (msg : String)
deriving DecidableEq

/-- The `std::io::Error`s of a connection: a read past the end of what the peer sent, and a
write into a connection that is broken. -/
inductive IoError where
  | unexpectedEof
  | brokenPipe
deriving DecidableEq

/-- `ObjectSendError`. -/
inductive ObjectSendError where
  | objectDeletionScheduled (peer : SocketAddr) (objects : List ObjectId)
  | objectMetaTooLarge (peer : SocketAddr) (oid : ObjectId) (size : Nat)
  | objectDataTooLarge (peer : SocketAddr) (oid : ObjectId) (size : Nat)
  | storeError (peer : SocketAddr) (e : PlasmaError)
  | objectsNotFound (peer : SocketAddr) (objects : List ObjectId)
  | connectionError (peer : Option SocketAddr) (e : IoError)
deriving DecidableEq

/-- The code a failed sender writes in place of `BEGIN`; none once objects may be on the wire. -/
def ObjectSendError.responseCode : ObjectSendError → Option UInt8
  | .objectDeletionScheduled .. => some StatusCodes.obDeletionScheduledErr
  | .objectMetaTooLarge .. => some StatusCodes.obMetaTooLargeErr
  | .objectDataTooLarge .. => some StatusCodes.obDataTooLargeErr
  | .objectsNotFound .. => some StatusCodes.obNotFoundErr
  | .storeError .. => some StatusCodes.plasmaStoreErr
  | .connectionError .. => none

/-- No response code of a sender is `BEGIN`: a peer never takes a refusal for the start of the
objects. -/
theorem ObjectSendError.responseCode_ne_begin {e : ObjectSendError} {code : UInt8}
    (h : e.responseCode = some code) : code ≠ StatusCodes.begin := by
  cases e <;> cases h <;> decide

/-- Nor is any of them `SUCCESS`. -/
theorem ObjectSendError.responseCode_ne_success {e : ObjectSendError} {code : UInt8}
    (h : e.responseCode = some code) : code ≠ StatusCodes.success := by
  cases e <;> cases h <;> decide

/-- `ObjectReceiveError`. -/
inductive ObjectReceiveError where
  | alreadyReceiving (peer : SocketAddr) (objects : List ObjectId)
  | alreadyInStore (peer : SocketAddr) (objects : List ObjectId)
  | objectMetaTooLarge (peer : SocketAddr) (oid : ObjectId) (size : Nat)
  | objectDataTooLarge (peer : SocketAddr) (oid : ObjectId) (size : Nat)
  | zeroLengthObjectData (peer : SocketAddr) (oid : ObjectId)
  | peerError (peer : SocketAddr) (code : UInt8)
  | storeError (peer : SocketAddr) (e : PlasmaError)
  | connectionError (peer : Option SocketAddr) (e : IoError)
deriving DecidableEq

def ObjectReceiveError.responseCode : ObjectReceiveError → UInt8
  | .alreadyReceiving .. => StatusCodes.obAlreadyReceivingErr
  | .alreadyInStore .. => StatusCodes.obAlreadyInStoreErr
  | .objectMetaTooLarge .. => StatusCodes.obMetaTooLargeErr
  | .objectDataTooLarge .. => StatusCodes.obDataTooLargeErr
  | .zeroLengthObjectData .. => StatusCodes.obDataZeroLengthErr
  | .peerError _ code =>
    if code = StatusCodes.plasmaStoreErr then StatusCodes.peerPlasmaStoreErr else code
  | .storeError .. => StatusCodes.plasmaStoreErr
  | .connectionError .. => StatusCodes.peerConnectionErr

/-- `SyncError`. -/
inductive SyncError where
  | peerConnectionFailed (peer : SocketAddr) (e : IoError)
  | peerRequestNotSent (peer : SocketAddr) (e : IoError)
  | receiverError (e : ObjectReceiveError)
  | peerRequestPanicked
  | clientConnectionError (e : IoError)
  | peerAddressIsSelf
deriving DecidableEq

def SyncError.responseCode : SyncError → UInt8
  | .peerConnectionFailed .. => StatusCodes.peerConnectionErr
  | .peerRequestNotSent .. => StatusCodes.peerConnectionErr
  | .receiverError e => e.responseCode
  | .peerRequestPanicked => StatusCodes.peerRequestPanicked
  | .clientConnectionError .. => StatusCodes.clientConnectionErr
  | .peerAddressIsSelf => StatusCodes.peerConnectionErr

/-- `PeerResult`: how the client reads one byte of a SYNC response. -/
inductive PeerResult where
  | ok
  | objectMetaTooLarge
  | objectDataTooLarge
  | zeroLengthObjectData
  | plasmaStoreError
  | peerPlasmaStoreError
  | peerRequestPanicked
  | objectDeletionScheduled
  | objectsNotFound
  | alreadyReceiving
  | alreadyInStore
  | peerConnectionError
  | unknownError
deriving DecidableEq

/-- `PeerResult::from`. -/
def PeerResult.ofCode (result : UInt8) : PeerResult :=
  if result = StatusCodes.success then .ok
  else if result = StatusCodes.obMetaTooLargeErr then .objectMetaTooLarge
  else if result = StatusCodes.obDataTooLargeErr then .objectDataTooLarge
  else if result = StatusCodes.obDataZeroLengthErr then .zeroLengthObjectData
  else if result = StatusCodes.plasmaStoreErr then .plasmaStoreError
  else if result = StatusCodes.peerPlasmaStoreErr then .peerPlasmaStoreError
  else if result = StatusCodes.peerRequestPanicked then .peerRequestPanicked
  else if result = StatusCodes.obDeletionScheduledErr then .objectDeletionScheduled
  else if result = StatusCodes.obNotFoundErr then .objectsNotFound
  else if result = StatusCodes.obAlreadyReceivingErr then .alreadyReceiving
  else if result = StatusCodes.obAlreadyInStoreErr then .alreadyInStore
  else if result = StatusCodes.peerConnectionErr then .peerConnectionError
  else .unknownError

def PeerResult.isOk : PeerResult → Bool
  | .ok => true
  | _ => false

theorem PeerResult.isOk_ofCode (result : UInt8) :
    (PeerResult.ofCode result).isOk = true ↔ result = StatusCodes.success := by
  rw [PeerResult.ofCode]
  simp only [apply_ite PeerResult.isOk]
  simp only [PeerResult.isOk, ite_self]
  simp

/-- The only receive error reported under `SUCCESS` is a `PeerError` carrying `SUCCESS`. -/
theorem receiveResponseCode_eq_success (e : ObjectReceiveError) :
    e.responseCode = StatusCodes.success ↔ ∃ peer, e = .peerError peer StatusCodes.success := by
  cases e with
  | peerError peer code =>
    by_cases h : code = StatusCodes.plasmaStoreErr
    · subst h; simp [ObjectReceiveError.responseCode]; decide
    · simp [ObjectReceiveError.responseCode, h]
  | _ => simp [ObjectReceiveError.responseCode]; decide

theorem syncResponseCode_eq_success (e : SyncError) :
    e.responseCode = StatusCodes.success ↔
      ∃ peer, e = .receiverError (.peerError peer StatusCodes.success) := by
  cases e with
  | receiverError e => simp [SyncError.responseCode, receiveResponseCode_eq_success]
  | _ => simp [SyncError.responseCode]; decide

end PlasmaStream
