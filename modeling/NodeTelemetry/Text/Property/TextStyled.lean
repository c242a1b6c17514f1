import NodeTelemetry.Text.Property

/-!
# Emoji that can be text

Characters that are shown as emoji by themselves, and as narrow text with a variation selector after
them.
-/

namespace NodeTelemetry.Text.Property

set_option maxRecDepth 8000 in
/-- The change points of the property. -/
def textStyled : Property := ⟨#[
    0x231A, 0x231C, 0x23E9, 0x23ED, 0x23F0, 0x23F1, 0x23F3, 0x23F4, 0x25FD, 0x25FF, 0x2614,
    0x2616, 0x2648, 0x2654, 0x267F, 0x2680, 0x2693, 0x2694, 0x26A1, 0x26A2, 0x26AA, 0x26AC,
    0x26BD, 0x26BF, 0x26C4, 0x26C6, 0x26CE, 0x26CF, 0x26D4, 0x26D5, 0x26EA, 0x26EB, 0x26F2,
    0x26F4, 0x26F5, 0x26F6, 0x26FA, 0x26FB, 0x26FD, 0x26FE, 0x2705, 0x2706, 0x270A, 0x270C,
    0x2728, 0x2729, 0x274C, 0x274D, 0x274E, 0x274F, 0x2753, 0x2756, 0x2757, 0x2758, 0x2795,
    0x2798, 0x27B0, 0x27B1, 0x27BF, 0x27C0, 0x2B1B, 0x2B1D, 0x2B50, 0x2B51, 0x2B55, 0x2B56,
    0x1F004, 0x1F005, 0x1F30D, 0x1F310, 0x1F315, 0x1F316, 0x1F31C, 0x1F31D, 0x1F378, 0x1F379,
    0x1F393, 0x1F394, 0x1F3A7, 0x1F3A8, 0x1F3AC, 0x1F3AF, 0x1F3C2, 0x1F3C3, 0x1F3C4, 0x1F3C5,
    0x1F3C6, 0x1F3C7, 0x1F3CA, 0x1F3CB, 0x1F3E0, 0x1F3E1, 0x1F3ED, 0x1F3EE, 0x1F408, 0x1F409,
    0x1F415, 0x1F416, 0x1F41F, 0x1F420, 0x1F426, 0x1F427, 0x1F442, 0x1F443, 0x1F446, 0x1F44A,
    0x1F44D, 0x1F44F, 0x1F453, 0x1F454, 0x1F46A, 0x1F46B, 0x1F47D, 0x1F47E, 0x1F4A3, 0x1F4A4,
    0x1F4B0, 0x1F4B1, 0x1F4B3, 0x1F4B4, 0x1F4BB, 0x1F4BC, 0x1F4BF, 0x1F4C0, 0x1F4CB, 0x1F4CC,
    0x1F4DA, 0x1F4DB, 0x1F4DF, 0x1F4E0, 0x1F4E4, 0x1F4E7, 0x1F4EA, 0x1F4EE, 0x1F4F7, 0x1F4F8,
    0x1F4F9, 0x1F4FC, 0x1F508, 0x1F509, 0x1F50D, 0x1F50E, 0x1F512, 0x1F514, 0x1F550, 0x1F568,
    0x1F610, 0x1F611, 0x1F687, 0x1F688, 0x1F68D, 0x1F68E, 0x1F691, 0x1F692, 0x1F694, 0x1F695,
    0x1F698, 0x1F699, 0x1F6AD, 0x1F6AE, 0x1F6B2, 0x1F6B3, 0x1F6B9, 0x1F6BB, 0x1F6BC, 0x1F6BD]⟩

end NodeTelemetry.Text.Property
