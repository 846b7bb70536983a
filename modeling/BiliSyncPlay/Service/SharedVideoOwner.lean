import BiliSyncPlay.Stores.RoomStore

/-!
# Who owns the share

Ownership is derived from the stored sharer and the members online: the stored one while
seated, else the longest tenured member.
-/

namespace BiliSyncPlay

structure SharedVideoOwnerCandidate where
  id : MemberId
  joinedAt : Option Time
  deriving DecidableEq

/-- Longer tenure first, then the smaller id; a candidate that never recorded one comes last. -/
def precedes (left right : SharedVideoOwnerCandidate) : Bool :=
  match left.joinedAt, right.joinedAt with
  | some l, some r => l < r || (l == r && left.id < right.id)
  | some _, none => true
  | none, some _ => false
  | none, none => left.id < right.id

def longestTenured : List SharedVideoOwnerCandidate → Option SharedVideoOwnerCandidate
  | [] => none
  | m :: rest => some (rest.foldl (fun best c => if precedes c best then c else best) m)

def resolveSharedVideoOwnerId (sharedByMemberId : Option MemberId)
    (members : List SharedVideoOwnerCandidate) : Option MemberId :=
  match sharedByMemberId with
  | none => none
  | some owner =>
    if members.any fun member => member.id = owner then some owner
    else ((longestTenured members).map SharedVideoOwnerCandidate.id).orElse fun _ => some owner

def sharedVideoOwnerChangedOnLeave (sharedByMemberId : Option MemberId)
    (membersAfter : List SharedVideoOwnerCandidate) (leavingMember : SharedVideoOwnerCandidate) :
    Bool :=
  let membersBefore :=
    if membersAfter.any fun member => member.id = leavingMember.id then
      membersAfter.map fun member => if member.id = leavingMember.id then leavingMember else member
    else membersAfter ++ [leavingMember]
  resolveSharedVideoOwnerId sharedByMemberId membersBefore ≠
    resolveSharedVideoOwnerId sharedByMemberId membersAfter

end BiliSyncPlay
