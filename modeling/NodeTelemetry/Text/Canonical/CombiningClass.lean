import NodeTelemetry.Text.Classes

/-!
# Combining classes

Marks of different classes sit at different places around a base, so that their order does not
matter. The class of everything else is 0. Characters that decompose have no class of their own
here.
-/

namespace NodeTelemetry.Text.Canonical

set_option maxRecDepth 8000 in
/-- The runs of characters of the same class. -/
def combiningClasses : Text.Classes := ⟨#[
    0x0, 0x300E6, 0x315E8, 0x316DC, 0x31AE8, 0x31BD8, 0x31CDC, 0x321CA, 0x323DC, 0x327CA, 0x329DC,
    0x33401, 0x339DC, 0x33DE6, 0x34000, 0x342E6, 0x34300, 0x345F0, 0x346E6, 0x347DC, 0x34AE6,
    0x34DDC, 0x34F00, 0x350E6, 0x353DC, 0x357E6, 0x358E8, 0x359DC, 0x35BE6, 0x35CE9, 0x35DEA,
    0x35FE9, 0x360EA, 0x362E9, 0x363E6, 0x37000, 0x483E6, 0x48800, 0x591DC, 0x592E6, 0x596DC,
    0x597E6, 0x59ADE, 0x59BDC, 0x59CE6, 0x5A2DC, 0x5A8E6, 0x5AADC, 0x5ABE6, 0x5ADDE, 0x5AEE4,
    0x5AFE6, 0x5B00A, 0x5B10B, 0x5B20C, 0x5B30D, 0x5B40E, 0x5B50F, 0x5B610, 0x5B711, 0x5B812,
    0x5B913, 0x5BB14, 0x5BC15, 0x5BD16, 0x5BE00, 0x5BF17, 0x5C000, 0x5C118, 0x5C219, 0x5C300,
    0x5C4E6, 0x5C5DC, 0x5C600, 0x5C712, 0x5C800, 0x610E6, 0x6181E, 0x6191F, 0x61A20, 0x61B00,
    0x64B1B, 0x64C1C, 0x64D1D, 0x64E1E, 0x64F1F, 0x65020, 0x65121, 0x65222, 0x653E6, 0x655DC,
    0x657E6, 0x65CDC, 0x65DE6, 0x65FDC, 0x66000, 0x67023, 0x67100, 0x6D6E6, 0x6DD00, 0x6DFE6,
    0x6E3DC, 0x6E4E6, 0x6E500, 0x6E7E6, 0x6E900, 0x6EADC, 0x6EBE6, 0x6EDDC, 0x6EE00, 0x71124,
    0x71200, 0x730E6, 0x731DC, 0x732E6, 0x734DC, 0x735E6, 0x737DC, 0x73AE6, 0x73BDC, 0x73DE6,
    0x73EDC, 0x73FE6, 0x742DC, 0x743E6, 0x744DC, 0x745E6, 0x746DC, 0x747E6, 0x748DC, 0x749E6,
    0x74B00, 0x7EBE6, 0x7F2DC, 0x7F3E6, 0x7F400, 0x7FDDC, 0x7FE00, 0x816E6, 0x81A00, 0x81BE6,
    0x82400, 0x825E6, 0x82800, 0x829E6, 0x82E00, 0x859DC, 0x85C00, 0x897E6, 0x899DC, 0x89CE6,
    0x8A000, 0x8CAE6, 0x8CFDC, 0x8D4E6, 0x8E200, 0x8E3DC, 0x8E4E6, 0x8E6DC, 0x8E7E6, 0x8E9DC,
    0x8EAE6, 0x8EDDC, 0x8F01B, 0x8F11C, 0x8F21D, 0x8F3E6, 0x8F6DC, 0x8F7E6, 0x8F9DC, 0x8FBE6,
    0x90000, 0x93C07, 0x93D00, 0x94D09, 0x94E00, 0x951E6, 0x952DC, 0x953E6, 0x95500, 0x9BC07,
    0x9BD00, 0x9CD09, 0x9CE00, 0x9FEE6, 0x9FF00, 0xA3C07, 0xA3D00, 0xA4D09, 0xA4E00, 0xABC07,
    0xABD00, 0xACD09, 0xACE00, 0xB3C07, 0xB3D00, 0xB4D09, 0xB4E00, 0xBCD09, 0xBCE00, 0xC3C07,
    0xC3D00, 0xC4D09, 0xC4E00, 0xC5554, 0xC565B, 0xC5700, 0xCBC07, 0xCBD00, 0xCCD09, 0xCCE00,
    0xD3B09, 0xD3D00, 0xD4D09, 0xD4E00, 0xDCA09, 0xDCB00, 0xE3867, 0xE3A09, 0xE3B00, 0xE486B,
    0xE4C00, 0xEB876, 0xEBA09, 0xEBB00, 0xEC87A, 0xECC00, 0xF18DC, 0xF1A00, 0xF35DC, 0xF3600,
    0xF37DC, 0xF3800, 0xF39D8, 0xF3A00, 0xF7181, 0xF7282, 0xF7300, 0xF7484, 0xF7500, 0xF7A82,
    0xF7E00, 0xF8082, 0xF8100, 0xF82E6, 0xF8409, 0xF8500, 0xF86E6, 0xF8800, 0xFC6DC, 0xFC700,
    0x103707, 0x103800, 0x103909, 0x103B00, 0x108DDC, 0x108E00, 0x135DE6, 0x136000, 0x171409,
    0x171600, 0x173409, 0x173500, 0x17D209, 0x17D300, 0x17DDE6, 0x17DE00, 0x18A9E4, 0x18AA00,
    0x1939DE, 0x193AE6, 0x193BDC, 0x193C00, 0x1A17E6, 0x1A18DC, 0x1A1900, 0x1A6009, 0x1A6100,
    0x1A75E6, 0x1A7D00, 0x1A7FDC, 0x1A8000, 0x1AB0E6, 0x1AB5DC, 0x1ABBE6, 0x1ABDDC, 0x1ABE00,
    0x1ABFDC, 0x1AC1E6, 0x1AC3DC, 0x1AC5E6, 0x1ACADC, 0x1ACBE6, 0x1ADDDC, 0x1ADE00, 0x1AE0E6,
    0x1AE6DC, 0x1AE7E6, 0x1AEBEA, 0x1AEC00, 0x1B3407, 0x1B3500, 0x1B4409, 0x1B4500, 0x1B6BE6,
    0x1B6CDC, 0x1B6DE6, 0x1B7400, 0x1BAA09, 0x1BAC00, 0x1BE607, 0x1BE700, 0x1BF209, 0x1BF400,
    0x1C3707, 0x1C3800, 0x1CD0E6, 0x1CD300, 0x1CD401, 0x1CD5DC, 0x1CDAE6, 0x1CDCDC, 0x1CE0E6,
    0x1CE100, 0x1CE201, 0x1CE900, 0x1CEDDC, 0x1CEE00, 0x1CF4E6, 0x1CF500, 0x1CF8E6, 0x1CFA00,
    0x1DC0E6, 0x1DC2DC, 0x1DC3E6, 0x1DCADC, 0x1DCBE6, 0x1DCDEA, 0x1DCED6, 0x1DCFDC, 0x1DD0CA,
    0x1DD1E6, 0x1DF6E8, 0x1DF7E4, 0x1DF9DC, 0x1DFADA, 0x1DFBE6, 0x1DFCE9, 0x1DFDDC, 0x1DFEE6,
    0x1DFFDC, 0x1E0000, 0x20D0E6, 0x20D201, 0x20D4E6, 0x20D801, 0x20DBE6, 0x20DD00, 0x20E1E6,
    0x20E200, 0x20E501, 0x20E7E6, 0x20E8DC, 0x20E9E6, 0x20EA01, 0x20ECDC, 0x20F0E6, 0x20F100,
    0x2CEFE6, 0x2CF200, 0x2D7F09, 0x2D8000, 0x2DE0E6, 0x2E0000, 0x302ADA, 0x302BE4, 0x302CE8,
    0x302DDE, 0x302EE0, 0x303000, 0x309908, 0x309B00, 0xA66FE6, 0xA67000, 0xA674E6, 0xA67E00,
    0xA69EE6, 0xA6A000, 0xA6F0E6, 0xA6F200, 0xA80609, 0xA80700, 0xA82C09, 0xA82D00, 0xA8C409,
    0xA8C500, 0xA8E0E6, 0xA8F200, 0xA92BDC, 0xA92E00, 0xA95309, 0xA95400, 0xA9B307, 0xA9B400,
    0xA9C009, 0xA9C100, 0xAAB0E6, 0xAAB100, 0xAAB2E6, 0xAAB4DC, 0xAAB500, 0xAAB7E6, 0xAAB900,
    0xAABEE6, 0xAAC000, 0xAAC1E6, 0xAAC200, 0xAAF609, 0xAAF700, 0xABED09, 0xABEE00, 0xFB1E1A,
    0xFB1F00, 0xFE20E6, 0xFE27DC, 0xFE2EE6, 0xFE3000, 0x101FDDC, 0x101FE00, 0x102E0DC, 0x102E100,
    0x10376E6, 0x1037B00, 0x10A0DDC, 0x10A0E00, 0x10A0FE6, 0x10A1000, 0x10A38E6, 0x10A3901,
    0x10A3ADC, 0x10A3B00, 0x10A3F09, 0x10A4000, 0x10AE5E6, 0x10AE6DC, 0x10AE700, 0x10D24E6,
    0x10D2800, 0x10D69E6, 0x10D6E00, 0x10EABE6, 0x10EAD00, 0x10EFADC, 0x10EFC00, 0x10EFDDC,
    0x10F0000, 0x10F46DC, 0x10F48E6, 0x10F4BDC, 0x10F4CE6, 0x10F4DDC, 0x10F5100, 0x10F82E6,
    0x10F83DC, 0x10F84E6, 0x10F85DC, 0x10F8600, 0x1104609, 0x1104700, 0x1107009, 0x1107100,
    0x1107F09, 0x1108000, 0x110B909, 0x110BA07, 0x110BB00, 0x11100E6, 0x1110300, 0x1113309,
    0x1113500, 0x1117307, 0x1117400, 0x111C009, 0x111C100, 0x111CA07, 0x111CB00, 0x1123509,
    0x1123607, 0x1123700, 0x112E907, 0x112EA09, 0x112EB00, 0x1133B07, 0x1133D00, 0x1134D09,
    0x1134E00, 0x11366E6, 0x1136D00, 0x11370E6, 0x1137500, 0x113CE09, 0x113D100, 0x1144209,
    0x1144300, 0x1144607, 0x1144700, 0x1145EE6, 0x1145F00, 0x114C209, 0x114C307, 0x114C400,
    0x115BF09, 0x115C007, 0x115C100, 0x1163F09, 0x1164000, 0x116B609, 0x116B707, 0x116B800,
    0x1172B09, 0x1172C00, 0x1183909, 0x1183A07, 0x1183B00, 0x1193D09, 0x1193F00, 0x1194307,
    0x1194400, 0x119E009, 0x119E100, 0x11A3409, 0x11A3500, 0x11A4709, 0x11A4800, 0x11A9909,
    0x11A9A00, 0x11C3F09, 0x11C4000, 0x11D4207, 0x11D4300, 0x11D4409, 0x11D4600, 0x11D9709,
    0x11D9800, 0x11F4109, 0x11F4300, 0x1612F09, 0x1613000, 0x16AF001, 0x16AF500, 0x16B30E6,
    0x16B3700, 0x16FF006, 0x16FF200, 0x1BC9E01, 0x1BC9F00, 0x1D165D8, 0x1D16701, 0x1D16A00,
    0x1D16DE2, 0x1D16ED8, 0x1D17300, 0x1D17BDC, 0x1D18300, 0x1D185E6, 0x1D18ADC, 0x1D18C00,
    0x1D1AAE6, 0x1D1AE00, 0x1D242E6, 0x1D24500, 0x1E000E6, 0x1E00700, 0x1E008E6, 0x1E01900,
    0x1E01BE6, 0x1E02200, 0x1E023E6, 0x1E02500, 0x1E026E6, 0x1E02B00, 0x1E08FE6, 0x1E09000,
    0x1E130E6, 0x1E13700, 0x1E2AEE6, 0x1E2AF00, 0x1E2ECE6, 0x1E2F000, 0x1E4ECE8, 0x1E4EEDC,
    0x1E4EFE6, 0x1E4F000, 0x1E5EEE6, 0x1E5EFDC, 0x1E5F000, 0x1E6E3E6, 0x1E6E400, 0x1E6E6E6,
    0x1E6E700, 0x1E6EEE6, 0x1E6F000, 0x1E6F5E6, 0x1E6F600, 0x1E8D0DC, 0x1E8D700, 0x1E944E6,
    0x1E94A07, 0x1E94B00]⟩

end NodeTelemetry.Text.Canonical
