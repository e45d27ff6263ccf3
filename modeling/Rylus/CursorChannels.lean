import Rylus.CursorPlacement

/-!
# The channels of a blended cursor

`composite_cursor` adds two terms per channel and packs the sums with shifts
and no masks.  If every channel of a cursor pixel is at most its alpha, no sum
exceeds a byte, so that the channels stay apart in each pixel and the whole
image can be composited channel by channel.
-/

namespace Rylus

namespace X11

inductive Channel where
  | red
  | green
  | blue
  deriving DecidableEq

namespace Channel

/-- How much the byte of the channel counts in a pixel. -/
def weight : Channel → Nat
  | red => 2 ^ 16
  | green => 2 ^ 8
  | blue => 1

/-- The byte of the channel in a pixel. -/
def ofPixel (channel : Channel) (pixel : UInt32) : Nat :=
  pixel.toNat / channel.weight % 256

/-- The channel of a cursor pixel over that of a frame pixel. -/
def blended (channel : Channel) (cPixel dPixel : UInt32) : Nat :=
  channel.ofPixel cPixel +
    channel.ofPixel dPixel * (255 - (alpha cPixel).toNat) / 255

end Channel

/-- No channel of the pixel is greater than its alpha. -/
def Premultiplied (cPixel : UInt32) : Prop :=
  ∀ channel : Channel, channel.ofPixel cPixel ≤ (alpha cPixel).toNat

/-- Every channel of the blended pixel is a byte, blended on its own, and the
highest byte is zero. -/
structure BlendsChannels (cPixel dPixel : UInt32) : Prop where
  isByte : ∀ channel : Channel, channel.blended cPixel dPixel ≤ 255
  exact : ∀ channel : Channel, channel.ofPixel (blend cPixel dPixel) =
    channel.blended cPixel dPixel
  topByte : (blend cPixel dPixel).toNat < 2 ^ 24

/-! ### One pixel -/

theorem toNat_and_255_eq (value : UInt32) :
    (value &&& 255).toNat = value.toNat % 256 := by
  rw [UInt32.toNat_and]
  exact Nat.and_two_pow_sub_one_eq_mod value.toNat 8

/-- A premultiplied channel leaves room for the frame behind it. -/
theorem mix_le {c d a : Nat} (premultiplied : c ≤ a) (isByte : d ≤ 255)
    (isAlpha : a ≤ 255) : c + d * (255 - a) / 255 ≤ 255 := by
  have behind : d * (255 - a) / 255 ≤ 255 - a :=
    Nat.div_le_of_le_mul (Nat.mul_le_mul_right (255 - a) isByte)
  omega

/-- Bytes that are packed with shifts are the bytes of the pixel. -/
theorem toNat_pack {red green blue : UInt32} (redByte : red.toNat ≤ 255)
    (greenByte : green.toNat ≤ 255) (blueByte : blue.toNat ≤ 255) :
    ((red <<< 16) ||| (green <<< 8) ||| blue).toNat =
      red.toNat * 2 ^ 16 + green.toNat * 2 ^ 8 + blue.toNat := by
  have redShifted : (red <<< 16).toNat = red.toNat <<< 16 := by
    rw [UInt32.toNat_shiftLeft]
    change red.toNat <<< 16 % 2 ^ 32 = _
    rw [Nat.shiftLeft_eq]
    omega
  have greenShifted : (green <<< 8).toNat = green.toNat <<< 8 := by
    rw [UInt32.toNat_shiftLeft]
    change green.toNat <<< 8 % 2 ^ 32 = _
    rw [Nat.shiftLeft_eq]
    omega
  have greenFits : green.toNat <<< 8 < 2 ^ 16 := by
    rw [Nat.shiftLeft_eq]
    omega
  have both : red.toNat <<< 16 ||| green.toNat <<< 8 =
      (red.toNat * 2 ^ 8 + green.toNat) <<< 8 := by
    rw [← Nat.shiftLeft_add_eq_or_of_lt greenFits]
    simp only [Nat.shiftLeft_eq]
    omega
  rw [UInt32.toNat_or, UInt32.toNat_or, redShifted, greenShifted, both,
    ← Nat.shiftLeft_add_eq_or_of_lt (by omega : blue.toNat < 2 ^ 8)]
  simp only [Nat.shiftLeft_eq]
  omega

/-- The channels of a pixel as `composite_cursor` takes them out. -/
theorem ofPixel_eq (channel : Channel) (pixel : UInt32) :
    channel.ofPixel pixel =
      (match channel with
        | .red => (pixel >>> 16) &&& 0xff
        | .green => (pixel >>> 8) &&& 0xff
        | .blue => pixel &&& 0xff : UInt32).toNat := by
  cases channel with
  | red =>
      dsimp only
      rw [toNat_and_255_eq, UInt32.toNat_shiftRight]
      exact congrArg (· % 256) (Nat.shiftRight_eq_div_pow pixel.toNat 16).symm
  | green =>
      dsimp only
      rw [toNat_and_255_eq, UInt32.toNat_shiftRight]
      exact congrArg (· % 256) (Nat.shiftRight_eq_div_pow pixel.toNat 8).symm
  | blue =>
      dsimp only
      rw [toNat_and_255_eq, Channel.ofPixel]
      exact congrArg (· % 256) (Nat.div_one pixel.toNat)

/-- A premultiplied pixel blends every channel on its own. -/
theorem Premultiplied.blendsChannels {cPixel : UInt32}
    (premultiplied : Premultiplied cPixel) (dPixel : UInt32) :
    BlendsChannels cPixel dPixel := by
  have aByte : (alpha cPixel).toNat ≤ 255 := toNat_and_255 _
  have dByte (channel : Channel) : channel.ofPixel dPixel ≤ 255 :=
    Nat.le_of_lt_succ (Nat.mod_lt _ (by decide))
  have isByte (channel : Channel) : channel.blended cPixel dPixel ≤ 255 :=
    mix_le (premultiplied channel) (dByte channel) aByte
  have packed : (blend cPixel dPixel).toNat =
      Channel.red.blended cPixel dPixel * 2 ^ 16 +
        Channel.green.blended cPixel dPixel * 2 ^ 8 +
          Channel.blue.blended cPixel dPixel := by
    have mixed {c d : UInt32} {channel : Channel}
        (ofC : channel.ofPixel cPixel = (c &&& 255).toNat)
        (ofD : channel.ofPixel dPixel = (d &&& 255).toNat) :
        ((c &&& 255) + (d &&& 255) * (255 - alpha cPixel) / 255).toNat =
          channel.blended cPixel dPixel := by
      rw [toNat_mix (toNat_and_255 c) (toNat_and_255 d) aByte,
        Channel.blended, ofC, ofD]
    have red := mixed (ofPixel_eq .red cPixel) (ofPixel_eq .red dPixel)
    have green := mixed (ofPixel_eq .green cPixel) (ofPixel_eq .green dPixel)
    have blue := mixed (ofPixel_eq .blue cPixel) (ofPixel_eq .blue dPixel)
    rw [← red, ← green, ← blue]
    apply toNat_pack
    · rw [red]
      exact isByte .red
    · rw [green]
      exact isByte .green
    · rw [blue]
      exact isByte .blue
  have red := isByte .red
  have green := isByte .green
  have blue := isByte .blue
  constructor
  · exact isByte
  · intro channel
    rw [Channel.ofPixel, packed]
    cases channel <;> simp only [Channel.weight] <;> omega
  · rw [packed]
    omega

/-! ### The whole image -/

/-- One channel of an image. -/
def Channel.plane (channel : Channel) (pixels : Array UInt32) : Array Nat :=
  pixels.map channel.ofPixel

/-- Cursor images in the same place, of the same transparency and with one
channel in common. -/
structure CursorImage.SharesChannel (channel : Channel)
    (one other : CursorImage) : Prop where
  x : one.x = other.x
  y : one.y = other.y
  width : one.width = other.width
  height : one.height = other.height
  xhot : one.xhot = other.xhot
  yhot : one.yhot = other.yhot
  alphas : one.cursorImage.map alpha = other.cursorImage.map alpha
  plane : channel.plane one.cursorImage = channel.plane other.cursorImage

section Image

variable {channel : Channel}

theorem size_eq_of_plane {one other : Array UInt32}
    (same : channel.plane one = channel.plane other) :
    one.size = other.size := by
  have sizes := congrArg Array.size same
  simpa [Channel.plane] using sizes

/-- Images that share a plane share that channel of every pixel. -/
theorem getElem?_of_map_eq {β : Type*} {f : UInt32 → β}
    {one other : Array UInt32} (same : one.map f = other.map f) (index : Nat) :
    one[index]?.map f = other[index]?.map f := by
  rw [← Array.getElem?_map, ← Array.getElem?_map, same]

/-- One step of the loop acts on a channel no matter what the others are. -/
theorem compositePixel_plane {pixels pixels' : Array UInt32}
    (alphas : pixels.map alpha = pixels'.map alpha)
    (planes : channel.plane pixels = channel.plane pixels')
    (premultiplied : ∀ cPixel ∈ pixels, Premultiplied cPixel)
    (premultiplied' : ∀ cPixel ∈ pixels', Premultiplied cPixel)
    (cursorX cursorY cw w j i : Int32) {data data' : Array UInt32}
    (same : channel.plane data = channel.plane data') :
    (compositePixel pixels cursorX cursorY cw w data j i).map channel.plane =
      (compositePixel pixels' cursorX cursorY cw w data' j i).map
        channel.plane := by
  unfold compositePixel
  have sameAlpha := getElem?_of_map_eq alphas (asUsize (j * cw + i))
  have samePlane := getElem?_of_map_eq planes (asUsize (j * cw + i))
  cases read : pixels[asUsize (j * cw + i)]? with
  | none =>
      rw [read, Option.map_none] at sameAlpha
      rw [Option.map_eq_none_iff.mp sameAlpha.symm]
  | some cPixel =>
      rw [read, Option.map_some] at sameAlpha samePlane
      obtain ⟨cPixel', read', isAlpha⟩ :=
        Option.map_eq_some_iff.mp sameAlpha.symm
      rw [read', Option.map_some, Option.some.injEq] at samePlane
      rw [read']
      dsimp only
      rw [isAlpha]
      split
      · generalize asUsize ((j + cursorY) * w + (i + cursorX)) = dst
        have sameFrame := getElem?_of_map_eq same dst
        cases under : data[dst]? with
        | none =>
            rw [under, Option.map_none] at sameFrame
            rw [Option.map_eq_none_iff.mp sameFrame.symm]
        | some dPixel =>
            rw [under, Option.map_some] at sameFrame
            obtain ⟨dPixel', under', isFrame⟩ :=
              Option.map_eq_some_iff.mp sameFrame.symm
            have blends := (premultiplied cPixel
              (Array.mem_of_getElem? read)).blendsChannels dPixel
            have blends' := (premultiplied' cPixel'
              (Array.mem_of_getElem? read')).blendsChannels dPixel'
            have sameBlend : channel.ofPixel (blend cPixel dPixel) =
                channel.ofPixel (blend cPixel' dPixel') := by
              rw [blends.exact, blends'.exact, Channel.blended,
                Channel.blended, samePlane, isFrame, isAlpha]
            rw [under']
            simp only [Option.map_some, Channel.plane,
              Array.map_setIfInBounds, sameBlend]
            change data.map channel.ofPixel = data'.map channel.ofPixel at same
            rw [same]
      · exact congrArg some same

end Image

/-- Every frame pixel under a cursor pixel that is not transparent gets each
channel of the two blended on its own. -/
def ChannelsPlaced (image : CursorImage) (capX capY : Int16) {w h : UInt16}
    (before : Frame w h) (after : Array UInt32) : Prop :=
  ∀ (x y : Nat) (cPixel dPixel : UInt32), x < w.toNat → y < h.toNat →
    image.pixelAt (x - image.left capX) (y - image.top capY) = some cPixel →
      0 < alpha cPixel → before.pixels[y * w.toNat + x]? = some dPixel →
        ∃ result, after[y * w.toNat + x]? = some result ∧
          ∀ channel : Channel,
            channel.ofPixel result = channel.blended cPixel dPixel

theorem CursorImage.mem_of_pixelAt {image : CursorImage} {i j : Int}
    {cPixel : UInt32} (there : image.pixelAt i j = some cPixel) :
    cPixel ∈ image.cursorImage := by
  rw [CursorImage.pixelAt] at there
  split at there
  · exact Array.mem_of_getElem? there
  · cases there

theorem channelsPlaced_of_placedExactly {image : CursorImage}
    {capX capY : Int16} {w h : UInt16} {before : Frame w h}
    {after : Array UInt32}
    (premultiplied : ∀ cPixel ∈ image.cursorImage, Premultiplied cPixel)
    (placed : PlacedExactly image capX capY before after) :
    ChannelsPlaced image capX capY before after := by
  intro x y cPixel dPixel column row covered covers present
  have pixel := placed.2 x y column row
  rw [covered, present, Option.map_some, Option.map_some, Option.getD_some,
    overlay, if_pos covers] at pixel
  exact ⟨_, pixel, (premultiplied cPixel
    (CursorImage.mem_of_pixelAt covered)).blendsChannels dPixel |>.exact⟩

/-- Every cursor pixel that is premultiplied is blended channel by channel, so
that compositing a cursor of such pixels gives each channel of the frame, or
fails, as it does for any cursor and frame with the same alpha and the same
channel; and where the cursor stays inside, the pixels of the result are those
blended. -/
theorem compositeCursor_channelwise :
    (∀ cPixel dPixel, Premultiplied cPixel → BlendsChannels cPixel dPixel) ∧
      (∀ (channel : Channel) (one other : CursorImage) (capX capY : Int32)
        (w h : UInt16) (frame frame' : Array UInt32),
        (∀ cPixel ∈ one.cursorImage, Premultiplied cPixel) →
          (∀ cPixel ∈ other.cursorImage, Premultiplied cPixel) →
            one.SharesChannel channel other →
              channel.plane frame = channel.plane frame' →
                (compositeCursor one capX capY w h frame).map channel.plane =
                  (compositeCursor other capX capY w h frame').map
                    channel.plane) ∧
      ∀ (image : CursorImage) (capX capY : Int16) (w h : UInt16)
        (frame : Frame w h),
        (∀ cPixel ∈ image.cursorImage, Premultiplied cPixel) →
          StaysInside image capX capY w h →
            ∃ after, compositeCursor image capX.toInt32 capY.toInt32 w h
                frame.pixels = some after ∧
              ChannelsPlaced image capX capY frame after := by
  refine ⟨?_, ?_, ?_⟩
  · exact fun _ dPixel premultiplied => premultiplied.blendsChannels dPixel
  · intro channel one other capX capY w h frame frame' premultiplied
      premultiplied' shares same
    rw [compositeCursor_eq, compositeCursor_eq, shares.x, shares.y,
      shares.width, shares.height, shares.xhot, shares.yhot,
      size_eq_of_plane same]
    split
    · exact congrArg some same
    · split
      · apply ArrayWrites.map_foldlM_congr _ same
        intro index data data' sameData
        exact compositePixel_plane shares.alphas shares.plane premultiplied
          premultiplied' _ _ _ _ _ _ sameData
      · rfl
  · intro image capX capY w h frame premultiplied inside
    obtain ⟨after, runs, placed⟩ := placedExactly_of_staysInside inside frame
    exact ⟨after, runs,
      channelsPlaced_of_placedExactly premultiplied placed⟩

/-- A cursor of one pixel. -/
def onePixelCursor (pixel : UInt32) : CursorImage where
  x := 0
  y := 0
  width := 1
  height := 1
  xhot := 0
  yhot := 0
  cursorImage := #[pixel]
  size_eq := rfl

/-- A frame of one pixel. -/
def onePixelFrame (pixel : UInt32) : Frame 1 1 := ⟨#[pixel], rfl⟩

/-- Half transparent cursors of the same red over frames of the same red, and
what the first of them leaves there. -/
theorem compositeCursor_channelwise_halfTransparent :
    BlendsChannels 0x80402010 0x00ffffff ∧
      (compositeCursor (onePixelCursor 0x80402010) 0 0 1 1 #[0x00ffffff]).map
          Channel.red.plane =
        (compositeCursor (onePixelCursor 0x80408000) 0 0 1 1 #[0x00ff0080]).map
          Channel.red.plane ∧
      ∃ after, compositeCursor (onePixelCursor 0x80402010)
            (0 : Int16).toInt32 (0 : Int16).toInt32 1 1
            (onePixelFrame 0x00ffffff).pixels = some after ∧
          ChannelsPlaced (onePixelCursor 0x80402010) 0 0
            (onePixelFrame 0x00ffffff) after := by
  have first : Premultiplied 0x80402010 := by
    intro channel
    cases channel <;> decide
  have second : Premultiplied 0x80408000 := by
    intro channel
    cases channel <;> decide
  have inside : StaysInside (onePixelCursor 0x80402010) 0 0 1 1 := by
    intro i j column row
    have isColumn : i = 0 := by
      change (0 ≤ i ∧ i < 1 ∧ 0 ≤ 0 + i ∧ 0 + i < 1) ∨ (1 - 0 ≤ i ∧ i < 0)
        at column
      omega
    have isRow : j = 0 := by
      change (0 ≤ j ∧ j < 1 ∧ 0 ≤ 0 + j ∧ 0 + j < 1) ∨ (1 - 0 ≤ j ∧ j < 0)
        at row
      omega
    subst isColumn isRow
    exact ⟨by decide, by decide, by decide,
      fun impossible => absurd impossible (lt_irrefl _)⟩
  refine ⟨compositeCursor_channelwise.1 _ _ first,
    compositeCursor_channelwise.2.1 .red _ _ 0 0 1 1 _ _ ?_ ?_ ?_
      (by decide +kernel),
    compositeCursor_channelwise.2.2 _ 0 0 1 1 _ ?_ inside⟩
  · simpa [onePixelCursor] using first
  · simpa [onePixelCursor] using second
  · constructor <;> decide +kernel
  · simpa [onePixelCursor] using first

end X11

end Rylus
