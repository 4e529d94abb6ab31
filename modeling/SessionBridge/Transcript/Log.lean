import SessionBridge.Transcript.Entry

/-! The transcript only grows. It opens with a banner, every line gets its position as its sequence
number, and a reader who knows how far they came asks for the rest. -/
namespace SessionBridge

structure Transcript where
  entries : Array Entry
  deriving DecidableEq, Inhabited

namespace Transcript

def empty : Transcript := ⟨#[]⟩

def size (t : Transcript) : Nat :=
  t.entries.size

def isEmpty (t : Transcript) : Bool :=
  t.entries.isEmpty

def toList (t : Transcript) : List Entry :=
  t.entries.toList

def place (t : Transcript) (line : Line) : Entry :=
  ⟨line, t.size⟩

def append (t : Transcript) (line : Line) : Transcript :=
  ⟨t.entries.push (t.place line)⟩

/-- Appends an entry under a sequence number of this transcript, whichever one it brings, and returns
it as stored. -/
def store (t : Transcript) (e : Entry) : Entry × Transcript :=
  (t.place e.toLine, t.append e.toLine)

def since (t : Transcript) (position : Nat) : List Entry :=
  t.toList.drop position

/-- The first line of every transcript; `opened` is the local time as text. -/
def banner (now : Timestamp) (opened : String) : Line :=
  ⟨now, .system, .system, "New Session " ++ opened⟩

def start (now : Timestamp) (opened : String) : Transcript :=
  empty.append (banner now opened)

@[simp] theorem toList_empty : empty.toList = [] := rfl

@[simp] theorem toList_append (t : Transcript) (line : Line) :
    (t.append line).toList = t.toList ++ [t.place line] := by
  simp [append, toList]

@[simp] theorem length_toList (t : Transcript) : t.toList.length = t.size := by
  simp [toList, size]

end Transcript

end SessionBridge
