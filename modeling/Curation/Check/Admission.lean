import Curation.Check.Basic

/-!
Checks that decide without looking: the names that stand for inner nodes, open admission, and
admission by hand.
-/
namespace Curation.Check.Admission

def andEntry : Entry where
  definition :=
    { name := "and"
      friendlyName := "And"
      description := "Combine multiple rules together"
      subject := .cast
      allowMultiple := true
      hidden := true }
  run _ := return ⟨true, "And rule always passes"⟩

def orEntry : Entry where
  definition :=
    { name := "or"
      friendlyName := "Or"
      description := "Combine multiple rules together"
      subject := .cast
      allowMultiple := true
      hidden := true }
  run _ := return ⟨true, "Or rule always passes"⟩

def alwaysInclude : Entry where
  definition :=
    { name := "alwaysInclude"
      friendlyName := "Anyone Can Join"
      description := "Anyone can join your channel."
      subject := .cast
      category := .inclusion }
  run _ := return ⟨true, "Everything included by default"⟩

/-- Never passes: a moderator decides. The user's earlier logs go, so that the request that is
pending stays the only one. -/
def manuallyApprove : Entry where
  definition :=
    { name := "manuallyApprove"
      friendlyName := "Manually Approve"
      description := "Manually approve member requests in Activity tab"
      subject := .cast
      category := .inclusion }
  run ctx := do
    if !ctx.simulation && ctx.hasLogs then clearLogs ctx.channel.id (toString ctx.user.fid)
    return ⟨false, "Need manual approval by channel moderators"⟩

def entries : List Entry := [andEntry, orEntry, alwaysInclude, manuallyApprove]

end Curation.Check.Admission
