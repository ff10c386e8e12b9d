/-!
A console is so many columns wide. A text is put into lines of that width, and a table gives each of
its columns a share of it: what the cells ask for, with a blank on either side and a frame around
and between the columns, where there is room for all of it.

How many columns there are is not found out here: what is asked of the surroundings, and what is
taken for a width where they do not tell, comes with the console. So does the way in which the
columns of a table give way where there is no room for all.
-/
namespace RelativeTime.CommandLine

/-- So many columns together. -/
def totalWidth : List Nat → Nat
  | [] => 0
  | width :: widths => width + totalWidth widths

/-- The columns of a console, and the widths that it gives to the columns of a table which ask for
some. -/
structure Console where
  columns : Nat
  share : List Nat → List Nat
  length_share (widths : List Nat) : (share widths).length = widths.length
  share_of_fits {widths : List Nat} (h : totalWidth widths + 3 * widths.length + 1 ≤ columns) :
    share widths = widths

namespace Console

/-- A quotient to the nearest whole number, and to the even one between two. -/
def roundedQuotient (n d : Nat) : Nat :=
  let rest := n % d
  if 2 * rest < d ∨ 2 * rest = d ∧ n / d % 2 = 0 then n / d else n / d + 1

/-- The widths after those that are `widest`, `count` of them, have given so many columns away
together, and none of them more than `most`. -/
def giveWay (widest most : Nat) (excess count : Nat) : List Nat → List Nat
  | [] => []
  | width :: widths =>
    if width = widest then
      let part := min most (roundedQuotient excess count)
      (width - part) :: giveWay widest most (excess - part) (count - 1) widths
    else width :: giveWay widest most excess count widths

/-- The widths after the widest have given way, down to the next width at the most. -/
def lessen (room : Nat) (widths : List Nat) : List Nat :=
  let widest := widths.foldl max 0
  let next := (widths.filter (· ≠ widest)).foldl max 0
  let excess := totalWidth widths - room
  giveWay widest (min excess (widest - next)) excess (widths.count widest) widths

/-- The widths after as many rounds as it takes until they fit. -/
def lessenAll (room : Nat) (widths : List Nat) : List Nat :=
  if totalWidth (lessen room widths) < totalWidth widths then lessenAll room (lessen room widths)
  else widths
termination_by totalWidth widths

/-- The columns of a table on a console of a width. -/
def shares (columns : Nat) (widths : List Nat) : List Nat :=
  let room := columns - (widths.length + 1)
  (lessenAll room (widths.map fun width => min (width + 2) room)).map (· - 2)

theorem length_giveWay (widest most excess count : Nat) (widths : List Nat) :
    (giveWay widest most excess count widths).length = widths.length := by
  induction widths generalizing excess count with
  | nil => rfl
  | cons width widths ih =>
    rw [giveWay]
    split
    · simp only [List.length_cons, ih]
    · simp only [List.length_cons, ih]

theorem giveWay_zero (widest excess count : Nat) (widths : List Nat) :
    giveWay widest 0 excess count widths = widths := by
  induction widths generalizing excess count with
  | nil => rfl
  | cons width widths ih =>
    rw [giveWay]
    split
    · simp only [Nat.zero_min, Nat.sub_zero, ih]
    · simp only [ih]

theorem length_lessenAll (room : Nat) (widths : List Nat) :
    (lessenAll room widths).length = widths.length := by
  fun_induction lessenAll room widths with
  | case1 widths _ ih => rw [ih, lessen, length_giveWay]
  | case2 => rfl

theorem lessenAll_of_le {room : Nat} {widths : List Nat} (h : totalWidth widths ≤ room) :
    lessenAll room widths = widths := by
  have hl : lessen room widths = widths := by
    rw [lessen, Nat.sub_eq_zero_of_le h, Nat.zero_min, giveWay_zero]
  rw [lessenAll, hl, if_neg (Nat.lt_irrefl _)]

theorem length_shares (columns : Nat) (widths : List Nat) :
    (shares columns widths).length = widths.length := by
  simp only [shares, List.length_map, length_lessenAll]

theorem map_padded {room : Nat} {widths : List Nat}
    (h : totalWidth widths + 2 * widths.length ≤ room) :
    (widths.map fun width => min (width + 2) room) = widths.map (· + 2) := by
  induction widths with
  | nil => rfl
  | cons width widths ih =>
    rw [totalWidth, List.length_cons] at h
    rw [List.map_cons, List.map_cons, ih (by omega), Nat.min_eq_left (by omega)]

theorem totalWidth_padded (widths : List Nat) :
    totalWidth (widths.map (· + 2)) = totalWidth widths + 2 * widths.length := by
  induction widths with
  | nil => rfl
  | cons width widths ih =>
    rw [List.map_cons, totalWidth, totalWidth, List.length_cons, ih]
    omega

theorem shares_of_fits {columns : Nat} {widths : List Nat}
    (h : totalWidth widths + 3 * widths.length + 1 ≤ columns) : shares columns widths = widths := by
  have htotal := totalWidth_padded widths
  rw [shares, map_padded (by omega), lessenAll_of_le (by omega), List.map_map]
  exact List.map_id _

/-- A console of a width, on which the widest columns of a table give way first. -/
def ofColumns (columns : Nat) : Console where
  columns := columns
  share := shares columns
  length_share := length_shares columns
  share_of_fits := shares_of_fits

end Console

end RelativeTime.CommandLine
