import NodeLink.Bytes
import NodeLink.Error

/-! Process images and the tables that link objects to byte ranges of them. Every linked range lies
inside its image, whatever is written to the image afterwards. -/

namespace NodeLink.ProcessData

def maxImage : Nat := 512

def maxLinks : Nat := 32

structure Link where
  object : ObjectRef
  offset : Nat
  size : Nat
  deriving DecidableEq, Repr

def Link.stop (link : Link) : Nat := link.offset + link.size

/-- Whether an entry names an object of its size and a range of the image. -/
def Link.fits (link : Link) (sizeOf : ObjectRef → Option Nat) (imageSize : Nat) : Bool :=
  sizeOf link.object = some link.size && link.stop ≤ imageSize

/-- Check a table against a dictionary's object sizes, entry by entry; `linked` entries stand before
these. -/
def checkLinks (sizeOf : ObjectRef → Option Nat) (imageSize : Nat) (linked : Nat) :
    List Link → Except Error Unit
  | [] => .ok ()
  | link :: rest =>
    if !link.fits sizeOf imageSize then .error (.linkMismatch link.object)
    else if maxLinks ≤ linked then .error .poolExhausted
    else checkLinks sizeOf imageSize (linked + 1) rest

theorem fits_of_checkLinks {sizeOf : ObjectRef → Option Nat} {imageSize linked : Nat}
    {links : List Link} (checked : checkLinks sizeOf imageSize linked links = .ok ()) :
    ∀ link ∈ links, link.fits sizeOf imageSize := by
  induction links generalizing linked with
  | nil => intro link member; cases member
  | cons first rest ih =>
    rw [checkLinks] at checked
    split at checked
    · cases checked
    · rename_i fits
      split at checked
      · cases checked
      · intro link member
        cases member with
        | head => simpa using fits
        | tail _ member => exact ih checked link member

structure Image where
  bytes : Bytes
  links : List Link
  inside : ∀ link ∈ links, link.stop ≤ bytes.length

namespace Image

def zeros (size : Nat) : Image := ⟨Bytes.zeros size, [], by intro link member; cases member⟩

def size (image : Image) : Nat := image.bytes.length

/-- Replace the link table, if the new one fits. -/
def link (image : Image) (sizeOf : ObjectRef → Option Nat) (links : List Link) :
    Except Error Image :=
  match checked : checkLinks sizeOf image.bytes.length 0 links with
  | .error error => .error error
  | .ok () => .ok {
      bytes := image.bytes
      links := links
      inside := fun link member => by
        have fits := fits_of_checkLinks checked link member
        simp only [Link.fits, Bool.and_eq_true, decide_eq_true_eq] at fits
        exact fits.2
    }

/-- The first entry for an object. -/
def find (image : Image) (object : ObjectRef) : Except Error Link :=
  match image.links.find? (·.object = object) with
  | none => .error (.unlinkedObject object)
  | some link => .ok link

def get (image : Image) (link : Link) : Bytes := image.bytes.slice link.offset link.size

/-- Put bytes into the image. -/
def put (image : Image) (offset : Nat) (bytes : Bytes) : Image where
  bytes := image.bytes.overlay offset bytes
  links := image.links
  inside := fun link member => by
    rw [Bytes.length_overlay]
    exact image.inside link member

def object (image : Image) (object : ObjectRef) : Except Error Bytes := image.get <$> image.find object

/-- Set one linked object. -/
def setObject (image : Image) (object : ObjectRef) (data : Bytes) : Except Error Image := do
  let link ← image.find object
  if data.length ≠ link.size then .error .payloadTooLarge else .ok (image.put link.offset data)

end Image

end NodeLink.ProcessData
