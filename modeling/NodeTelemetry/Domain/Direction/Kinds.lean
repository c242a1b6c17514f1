import NodeTelemetry.Text.Classes

/-!
# Direction of characters

The kind of a character of a name in texts of both directions, by its place in `Direction.all`.
-/

namespace NodeTelemetry.Domain

set_option maxRecDepth 8000 in
/-- The runs of characters of the same kind. -/
def directions : Text.Classes := ⟨#[
    0x9, 0x90B, 0xE09, 0x1C0B, 0x210A, 0x2305, 0x260A, 0x2B04, 0x2C07, 0x2D04, 0x2E07, 0x3003,
    0x3A07, 0x3B0A, 0x6100, 0x7B0A, 0x7F09, 0xA10A, 0xA205, 0xA60A, 0xB005, 0xB60A, 0xDF00,
    0xF70A, 0xF800, 0x2B90A, 0x2BB00, 0x2C20A, 0x2D000, 0x2D20A, 0x2EE00, 0x2EF0A, 0x30008,
    0x37100, 0x3750A, 0x37700, 0x3F60A, 0x3F800, 0x48308, 0x48B00, 0x58A0A, 0x58F05, 0x59108,
    0x5BE01, 0x5BF08, 0x5C001, 0x5C108, 0x5C301, 0x5C408, 0x5C601, 0x5C708, 0x5D001, 0x6060A,
    0x60802, 0x60905, 0x60B02, 0x60C07, 0x60D02, 0x60E0A, 0x61008, 0x61B02, 0x64B08, 0x66006,
    0x66A05, 0x66B06, 0x66D02, 0x67008, 0x67102, 0x6D608, 0x6DE0A, 0x6DF08, 0x6E502, 0x6E708,
    0x6E90A, 0x6EA08, 0x6EE02, 0x6F003, 0x6FA02, 0x71108, 0x71202, 0x73008, 0x74D02, 0x7A608,
    0x7B102, 0x7C001, 0x7EB08, 0x7F401, 0x7F60A, 0x7FA01, 0x7FD08, 0x7FE01, 0x81608, 0x81A01,
    0x81B08, 0x82401, 0x82508, 0x82801, 0x82908, 0x83001, 0x85908, 0x85E01, 0x86002, 0x89708,
    0x8A002, 0x8CA08, 0x90300, 0x93A08, 0x93B00, 0x93C08, 0x93D00, 0x94108, 0x94900, 0x94D08,
    0x94E00, 0x95108, 0x96000, 0x96208, 0x96400, 0x98108, 0x98200, 0x9BC08, 0x9BD00, 0x9C108,
    0x9C700, 0x9CD08, 0x9CE00, 0x9E208, 0x9E600, 0x9F205, 0x9F400, 0x9FB05, 0x9FC00, 0x9FE08,
    0xA0300, 0xA3C08, 0xA3E00, 0xA4108, 0xA5C00, 0xA7008, 0xA7200, 0xA7508, 0xA7600, 0xA8108,
    0xA8300, 0xABC08, 0xABD00, 0xAC108, 0xAC900, 0xACD08, 0xAD000, 0xAE208, 0xAE600, 0xAF105,
    0xAF900, 0xAFA08, 0xB0200, 0xB3C08, 0xB3D00, 0xB3F08, 0xB4000, 0xB4108, 0xB4700, 0xB4D08,
    0xB5700, 0xB6208, 0xB6600, 0xB8208, 0xB8300, 0xBC008, 0xBC100, 0xBCD08, 0xBD000, 0xBF30A,
    0xBF905, 0xBFA0A, 0xC0008, 0xC0100, 0xC0408, 0xC0500, 0xC3C08, 0xC3D00, 0xC3E08, 0xC4100,
    0xC4608, 0xC5800, 0xC6208, 0xC6600, 0xC780A, 0xC7F00, 0xC8108, 0xC8200, 0xCBC08, 0xCBD00,
    0xCCC08, 0xCD500, 0xCE208, 0xCE600, 0xD0008, 0xD0200, 0xD3B08, 0xD3D00, 0xD4108, 0xD4600,
    0xD4D08, 0xD4E00, 0xD6208, 0xD6600, 0xD8108, 0xD8200, 0xDCA08, 0xDCF00, 0xDD208, 0xDD800,
    0xE3108, 0xE3200, 0xE3408, 0xE3F05, 0xE4000, 0xE4708, 0xE4F00, 0xEB108, 0xEB200, 0xEB408,
    0xEBD00, 0xEC808, 0xED000, 0xF1808, 0xF1A00, 0xF3508, 0xF3600, 0xF3708, 0xF3800, 0xF3908,
    0xF3A0A, 0xF3E00, 0xF7108, 0xF7F00, 0xF8008, 0xF8500, 0xF8608, 0xF8800, 0xF8D08, 0xFBE00,
    0xFC608, 0xFC700, 0x102D08, 0x103100, 0x103208, 0x103800, 0x103908, 0x103B00, 0x103D08,
    0x103F00, 0x105808, 0x105A00, 0x105E08, 0x106100, 0x107108, 0x107500, 0x108208, 0x108300,
    0x108508, 0x108700, 0x108D08, 0x108E00, 0x109D08, 0x109E00, 0x135D08, 0x136000, 0x13900A,
    0x13A000, 0x14000A, 0x140100, 0x169B0A, 0x16A000, 0x171208, 0x171500, 0x173208, 0x173400,
    0x175208, 0x176000, 0x177208, 0x178000, 0x17B708, 0x17BE00, 0x17C608, 0x17C700, 0x17C908,
    0x17D400, 0x17DB05, 0x17DC00, 0x17DD08, 0x17E000, 0x17F00A, 0x181000, 0x188508, 0x188700,
    0x18A908, 0x18AA00, 0x192008, 0x192300, 0x192708, 0x192900, 0x193208, 0x193300, 0x193908,
    0x19400A, 0x194600, 0x19DE0A, 0x1A0000, 0x1A1708, 0x1A1900, 0x1A1B08, 0x1A1E00, 0x1A5608,
    0x1A5700, 0x1A5808, 0x1A6100, 0x1A6208, 0x1A6300, 0x1A6508, 0x1A6D00, 0x1A7308, 0x1A8000,
    0x1AB008, 0x1B0400, 0x1B3408, 0x1B3500, 0x1B3608, 0x1B3B00, 0x1B3C08, 0x1B3D00, 0x1B4208,
    0x1B4300, 0x1B6B08, 0x1B7400, 0x1B8008, 0x1B8200, 0x1BA208, 0x1BA600, 0x1BA808, 0x1BAA00,
    0x1BAB08, 0x1BAE00, 0x1BE608, 0x1BE700, 0x1BE808, 0x1BEA00, 0x1BED08, 0x1BEE00, 0x1BEF08,
    0x1BF200, 0x1C2C08, 0x1C3400, 0x1C3608, 0x1C3B00, 0x1CD008, 0x1CD300, 0x1CD408, 0x1CE100,
    0x1CE208, 0x1CE900, 0x1CED08, 0x1CEE00, 0x1CF408, 0x1CF500, 0x1CF808, 0x1CFA00, 0x1DC008,
    0x1E0100, 0x200C09, 0x20100A, 0x203005, 0x20350A, 0x204407, 0x20450A, 0x20A005, 0x20D008,
    0x21040A, 0x212E05, 0x213A0A, 0x214E00, 0x218A0A, 0x221204, 0x221305, 0x22140A, 0x233600,
    0x237B0A, 0x239500, 0x23960A, 0x26AC00, 0x26AD0A, 0x280000, 0x29000A, 0x2C3000, 0x2CE50A,
    0x2CEC00, 0x2CEF08, 0x2CF300, 0x2CF90A, 0x2D0000, 0x2D7F08, 0x2D8000, 0x2DE008, 0x2E000A,
    0x300500, 0x30080A, 0x302100, 0x302A08, 0x302E00, 0x30300A, 0x303100, 0x30370A, 0x303B00,
    0x303D0A, 0x304100, 0x309908, 0x309D00, 0x30A00A, 0x30A100, 0x30FB0A, 0x30FC00, 0x31C00A,
    0x31F000, 0x4DC00A, 0x4E0000, 0xA4900A, 0xA4D000, 0xA60D0A, 0xA61000, 0xA66F08, 0xA6730A,
    0xA67408, 0xA67E0A, 0xA68100, 0xA69E08, 0xA6A000, 0xA6F008, 0xA6F200, 0xA7000A, 0xA72300,
    0xA7880A, 0xA78900, 0xA80208, 0xA80300, 0xA80608, 0xA80700, 0xA80B08, 0xA80C00, 0xA82508,
    0xA82700, 0xA8280A, 0xA82C08, 0xA83000, 0xA83805, 0xA84000, 0xA8740A, 0xA88000, 0xA8C408,
    0xA8CE00, 0xA8E008, 0xA8F200, 0xA8FF08, 0xA90000, 0xA92608, 0xA92E00, 0xA94708, 0xA95200,
    0xA98008, 0xA98300, 0xA9B308, 0xA9B400, 0xA9B608, 0xA9BA00, 0xA9BC08, 0xA9BE00, 0xA9E508,
    0xA9E600, 0xAA2908, 0xAA2F00, 0xAA3108, 0xAA3300, 0xAA3508, 0xAA4000, 0xAA4308, 0xAA4400,
    0xAA4C08, 0xAA4D00, 0xAA7C08, 0xAA7D00, 0xAAB008, 0xAAB100, 0xAAB208, 0xAAB500, 0xAAB708,
    0xAAB900, 0xAABE08, 0xAAC000, 0xAAC108, 0xAAC200, 0xAAEC08, 0xAAEE00, 0xAAF608, 0xAB0100,
    0xAB6A0A, 0xABC000, 0xABE508, 0xABE600, 0xABE808, 0xABE900, 0xABED08, 0xABF000, 0xFB1E08,
    0xFBB202, 0xFBC30A, 0xFE2008, 0xFE450A, 0xFE7302, 0x1000000, 0x101010A, 0x1010200, 0x101400A,
    0x1018D00, 0x101900A, 0x101D000, 0x101FD08, 0x1028000, 0x102E008, 0x102E103, 0x1030000,
    0x1037608, 0x1038000, 0x1080001, 0x1091F0A, 0x1092001, 0x10A0108, 0x10A1001, 0x10A3808,
    0x10A4001, 0x10AE508, 0x10AEB01, 0x10B390A, 0x10B4001, 0x10D0002, 0x10D2408, 0x10D3006,
    0x10D4001, 0x10D6908, 0x10D6E0A, 0x10D6F01, 0x10E6006, 0x10E8001, 0x10EAB08, 0x10EAD01,
    0x10EC202, 0x10ED00A, 0x10EFA08, 0x10F0001, 0x10F3002, 0x10F4608, 0x10F5102, 0x10F7001,
    0x10F8208, 0x10F8601, 0x1100000, 0x1100108, 0x1100200, 0x1103808, 0x1104700, 0x110520A,
    0x1106600, 0x1107008, 0x1107100, 0x1107308, 0x1107500, 0x1107F08, 0x1108200, 0x110B308,
    0x110B700, 0x110B908, 0x110BB00, 0x110C208, 0x110D000, 0x1110008, 0x1110300, 0x1112708,
    0x1112C00, 0x1112D08, 0x1113600, 0x1117308, 0x1117400, 0x1118008, 0x1118200, 0x111B608,
    0x111BF00, 0x111C908, 0x111CD00, 0x111CF08, 0x111D000, 0x1122F08, 0x1123200, 0x1123408,
    0x1123500, 0x1123608, 0x1123800, 0x1123E08, 0x1123F00, 0x1124108, 0x1128000, 0x112DF08,
    0x112E000, 0x112E308, 0x112F000, 0x1130008, 0x1130200, 0x1133B08, 0x1133D00, 0x1134008,
    0x1134100, 0x1136608, 0x1138000, 0x113BB08, 0x113C200, 0x113CE08, 0x113CF00, 0x113D008,
    0x113D100, 0x113D208, 0x113D300, 0x113E108, 0x1140000, 0x1143808, 0x1144000, 0x1144208,
    0x1144500, 0x1144608, 0x1144700, 0x1145E08, 0x1145F00, 0x114B308, 0x114B900, 0x114BA08,
    0x114BB00, 0x114BF08, 0x114C100, 0x114C208, 0x114C400, 0x115B208, 0x115B800, 0x115BC08,
    0x115BE00, 0x115BF08, 0x115C100, 0x115DC08, 0x1160000, 0x1163308, 0x1163B00, 0x1163D08,
    0x1163E00, 0x1163F08, 0x1164100, 0x116600A, 0x1168000, 0x116AB08, 0x116AC00, 0x116AD08,
    0x116AE00, 0x116B008, 0x116B600, 0x116B708, 0x116B800, 0x1171D08, 0x1172000, 0x1172208,
    0x1172600, 0x1172708, 0x1173000, 0x1182F08, 0x1183800, 0x1183908, 0x1183B00, 0x1193B08,
    0x1193D00, 0x1193E08, 0x1193F00, 0x1194308, 0x1194400, 0x119D408, 0x119DC00, 0x119E008,
    0x119E100, 0x11A0108, 0x11A0700, 0x11A0908, 0x11A0B00, 0x11A3308, 0x11A3900, 0x11A3B08,
    0x11A3F00, 0x11A4708, 0x11A5000, 0x11A5108, 0x11A5700, 0x11A5908, 0x11A5C00, 0x11A8A08,
    0x11A9700, 0x11A9808, 0x11A9A00, 0x11B6008, 0x11B6100, 0x11B6208, 0x11B6500, 0x11B6608,
    0x11B6700, 0x11C3008, 0x11C3E00, 0x11C9208, 0x11CA900, 0x11CAA08, 0x11CB100, 0x11CB208,
    0x11CB400, 0x11CB508, 0x11D0000, 0x11D3108, 0x11D4600, 0x11D4708, 0x11D5000, 0x11D9008,
    0x11D9300, 0x11D9508, 0x11D9600, 0x11D9708, 0x11D9800, 0x11EF308, 0x11EF500, 0x11F0008,
    0x11F0200, 0x11F3608, 0x11F3E00, 0x11F4008, 0x11F4100, 0x11F4208, 0x11F4300, 0x11F5A08,
    0x11FB000, 0x11FD50A, 0x11FDD05, 0x11FE10A, 0x11FFF00, 0x1344008, 0x1344100, 0x1344708,
    0x1346000, 0x1611E08, 0x1612A00, 0x1612D08, 0x1613000, 0x16AF008, 0x16AF500, 0x16B3008,
    0x16B3700, 0x16F4F08, 0x16F5000, 0x16F8F08, 0x16F9300, 0x16FE20A, 0x16FE300, 0x16FE408,
    0x16FF000, 0x1BC9D08, 0x1BC9F00, 0x1CC000A, 0x1CF0008, 0x1CF5000, 0x1D16708, 0x1D16A00,
    0x1D17B08, 0x1D18300, 0x1D18508, 0x1D18C00, 0x1D1AA08, 0x1D1AE00, 0x1D1E90A, 0x1D24208,
    0x1D2450A, 0x1D2C000, 0x1D3000A, 0x1D36000, 0x1DA0008, 0x1DA3700, 0x1DA3B08, 0x1DA6D00,
    0x1DA7508, 0x1DA7600, 0x1DA8408, 0x1DA8500, 0x1DA9B08, 0x1DF0000, 0x1E00008, 0x1E10000,
    0x1E13008, 0x1E13700, 0x1E2AE08, 0x1E2C000, 0x1E2EC08, 0x1E2F000, 0x1E2FF05, 0x1E4D000,
    0x1E4EC08, 0x1E4F000, 0x1E5EE08, 0x1E5F000, 0x1E6E308, 0x1E6E400, 0x1E6E608, 0x1E6E700,
    0x1E6EE08, 0x1E6F000, 0x1E6F508, 0x1E6FE00, 0x1E80001, 0x1E8D008, 0x1E92201, 0x1E94408,
    0x1E94B01, 0x1EC7102, 0x1EEF00A, 0x1F15000, 0x1F16D0A, 0x1F17000, 0x1F1AD0A, 0x1F1E600,
    0x1F2600A, 0x2000000]⟩

end NodeTelemetry.Domain
