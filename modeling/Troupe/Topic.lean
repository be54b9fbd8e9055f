/-!
# Topics and topic patterns

A topic is a text of segments between slashes.  A pattern is written the same
way; a segment `*` stands for any one segment that is not empty, and `**` for any
number of segments.
-/

namespace Troupe

def topicFor (device actor message : String) : String :=
  device ++ "/" ++ actor ++ "/" ++ message

inductive TopicSegment where
  | literal (text : List Char)
  | one
  | rest
deriving DecidableEq, Repr

inductive PatternFault where
  | emptyPattern
  | emptySegment
  | partialWildcard
  | stated (text : String)
deriving DecidableEq, Repr

def PatternFault.message : PatternFault -> String
  | emptyPattern => "empty pattern"
  | emptySegment => "empty segment"
  | partialWildcard => "wildcards must fill a segment"
  | stated text => text

structure TopicPattern where
  text : String
  segments : List TopicSegment
deriving DecidableEq, Repr

namespace TopicSegment

def parse : List Char -> Except PatternFault TopicSegment
  | [] => .error PatternFault.emptySegment
  | ['*'] => .ok one
  | ['*', '*'] => .ok rest
  | cs => if cs.contains '*' then .error PatternFault.partialWildcard else .ok (literal cs)

def parseAll : List (List Char) -> Except PatternFault (List TopicSegment)
  | [] => .ok []
  | cs :: more =>
      match parse cs with
      | .error fault => .error fault
      | .ok segment =>
          match parseAll more with
          | .error fault => .error fault
          | .ok segments => .ok (segment :: segments)

def fits : TopicSegment -> List Char -> Bool
  | literal text, part => text == part
  | _, part => !part.isEmpty

/-- Whether a predicate holds of a list or of one of its tails. -/
def anyTail {α : Type} (p : List α -> Bool) : List α -> Bool
  | [] => p []
  | a :: others => p (a :: others) || anyTail p others

/-- Whether the pattern's segments can be laid over all of the topic's. -/
def matchAll : List TopicSegment -> List (List Char) -> Bool
  | [], parts => parts.isEmpty
  | rest :: segments, parts => anyTail (matchAll segments) parts
  | segment :: segments, part :: parts => segment.fits part && matchAll segments parts
  | _ :: _, [] => false

end TopicSegment

namespace TopicPattern

def parse (text : String) : Except PatternFault TopicPattern :=
  if text.isEmpty then .error PatternFault.emptyPattern
  else
    match TopicSegment.parseAll (text.toList.splitOn '/') with
    | .error fault => .error fault
    | .ok segments => .ok { text := text, segments := segments }

def covers (pattern : TopicPattern) (topic : String) : Bool :=
  TopicSegment.matchAll pattern.segments (topic.toList.splitOn '/')

end TopicPattern
end Troupe
