import SessionBridge.Feed
import SessionBridge.Transcript.Log

/-! A transcript that publishes what is appended to it, so that the order of the events is the order
of the entries. -/
namespace SessionBridge

structure Journal where
  transcript : Transcript
  feed : Feed

namespace Journal

def append (j : Journal) (line : Line) : Journal where
  transcript := j.transcript.append line
  feed := j.feed.publish (.transcript (j.transcript.place line))

def publish (j : Journal) (e : BridgeEvent) : Journal :=
  { j with feed := j.feed.publish e }

def start (feed : Feed) (now : Timestamp) (opened : String) : Journal :=
  { transcript := .empty, feed : Journal }.append (Transcript.banner now opened)

@[simp] theorem transcript_append (j : Journal) (line : Line) :
    (j.append line).transcript = j.transcript.append line := rfl

@[simp] theorem transcript_publish (j : Journal) (e : BridgeEvent) :
    (j.publish e).transcript = j.transcript := rfl

end Journal

end SessionBridge
