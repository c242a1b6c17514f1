import NodeTelemetry.Text.Classes

/-!
# Joining of letters

How a character of a name joins its neighbours: not at all (0), by letting them join across itself
(1), to the left (2), to the right (3), or to both sides (4).
-/

namespace NodeTelemetry.Domain

set_option maxRecDepth 8000 in
/-- The runs of characters that join in the same way. -/
def joinings : Text.Classes := ⟨#[
    0x0, 0x30001, 0x37100, 0x48301, 0x48B00, 0x59101, 0x5BE00, 0x5BF01, 0x5C000, 0x5C101, 0x5C300,
    0x5C401, 0x5C600, 0x5C701, 0x5D000, 0x61001, 0x61B00, 0x62004, 0x62100, 0x62203, 0x62604,
    0x62703, 0x62804, 0x62903, 0x62A04, 0x62F03, 0x63304, 0x64000, 0x64104, 0x64803, 0x64904,
    0x64B01, 0x66000, 0x66E04, 0x67001, 0x67103, 0x67400, 0x67904, 0x68803, 0x69A04, 0x6C003,
    0x6C104, 0x6C303, 0x6CC04, 0x6CD03, 0x6CE04, 0x6CF03, 0x6D004, 0x6D203, 0x6D400, 0x6D503,
    0x6D601, 0x6DE00, 0x6DF01, 0x6E500, 0x6E701, 0x6E900, 0x6EA01, 0x6EE03, 0x6F000, 0x6FA04,
    0x6FD00, 0x6FF04, 0x70000, 0x71003, 0x71101, 0x71204, 0x71503, 0x71A04, 0x71E03, 0x71F04,
    0x72803, 0x72904, 0x72A03, 0x72B04, 0x72C03, 0x72D04, 0x72F03, 0x73001, 0x74D03, 0x74E04,
    0x75903, 0x75C04, 0x76B03, 0x76D04, 0x77103, 0x77204, 0x77303, 0x77504, 0x77803, 0x77A04,
    0x78000, 0x7A601, 0x7B100, 0x7CA04, 0x7EB01, 0x7F400, 0x7FD01, 0x7FE00, 0x81601, 0x81A00,
    0x81B01, 0x82400, 0x82501, 0x82800, 0x82901, 0x83000, 0x84003, 0x84104, 0x84603, 0x84804,
    0x84903, 0x84A04, 0x85403, 0x85504, 0x85603, 0x85901, 0x85E00, 0x86004, 0x86100, 0x86204,
    0x86600, 0x86703, 0x86804, 0x86903, 0x88300, 0x88604, 0x88700, 0x88904, 0x88E03, 0x88F04,
    0x89701, 0x8A004, 0x8AA03, 0x8AD00, 0x8AE03, 0x8AF04, 0x8B103, 0x8B304, 0x8B903, 0x8BA04,
    0x8C900, 0x8CA01, 0x90300, 0x93A01, 0x93B00, 0x93C01, 0x93D00, 0x94101, 0x94900, 0x94D01,
    0x94E00, 0x95101, 0x96000, 0x96201, 0x96400, 0x98101, 0x98200, 0x9BC01, 0x9BD00, 0x9C101,
    0x9C700, 0x9CD01, 0x9CE00, 0x9E201, 0x9E600, 0x9FE01, 0xA0300, 0xA3C01, 0xA3E00, 0xA4101,
    0xA5C00, 0xA7001, 0xA7200, 0xA7501, 0xA7600, 0xA8101, 0xA8300, 0xABC01, 0xABD00, 0xAC101,
    0xAC900, 0xACD01, 0xAD000, 0xAE201, 0xAE600, 0xAFA01, 0xB0200, 0xB3C01, 0xB3D00, 0xB3F01,
    0xB4000, 0xB4101, 0xB4700, 0xB4D01, 0xB5700, 0xB6201, 0xB6600, 0xB8201, 0xB8300, 0xBC001,
    0xBC100, 0xBCD01, 0xBD000, 0xC0001, 0xC0100, 0xC0401, 0xC0500, 0xC3C01, 0xC3D00, 0xC3E01,
    0xC4100, 0xC4601, 0xC5800, 0xC6201, 0xC6600, 0xC8101, 0xC8200, 0xCBC01, 0xCBD00, 0xCBF01,
    0xCC000, 0xCC601, 0xCC700, 0xCCC01, 0xCD500, 0xCE201, 0xCE600, 0xD0001, 0xD0200, 0xD3B01,
    0xD3D00, 0xD4101, 0xD4600, 0xD4D01, 0xD4E00, 0xD6201, 0xD6600, 0xD8101, 0xD8200, 0xDCA01,
    0xDCF00, 0xDD201, 0xDD800, 0xE3101, 0xE3200, 0xE3401, 0xE3F00, 0xE4701, 0xE4F00, 0xEB101,
    0xEB200, 0xEB401, 0xEBD00, 0xEC801, 0xED000, 0xF1801, 0xF1A00, 0xF3501, 0xF3600, 0xF3701,
    0xF3800, 0xF3901, 0xF3A00, 0xF7101, 0xF7F00, 0xF8001, 0xF8500, 0xF8601, 0xF8800, 0xF8D01,
    0xFBE00, 0xFC601, 0xFC700, 0x102D01, 0x103100, 0x103201, 0x103800, 0x103901, 0x103B00,
    0x103D01, 0x103F00, 0x105801, 0x105A00, 0x105E01, 0x106100, 0x107101, 0x107500, 0x108201,
    0x108300, 0x108501, 0x108700, 0x108D01, 0x108E00, 0x109D01, 0x109E00, 0x135D01, 0x136000,
    0x171201, 0x171500, 0x173201, 0x173400, 0x175201, 0x176000, 0x177201, 0x178000, 0x17B701,
    0x17BE00, 0x17C601, 0x17C700, 0x17C901, 0x17D400, 0x17DD01, 0x17E000, 0x180704, 0x180800,
    0x182004, 0x188000, 0x188501, 0x188704, 0x18A901, 0x18AA04, 0x18B000, 0x192001, 0x192300,
    0x192701, 0x192900, 0x193201, 0x193300, 0x193901, 0x194000, 0x1A1701, 0x1A1900, 0x1A1B01,
    0x1A1E00, 0x1A5601, 0x1A5700, 0x1A5801, 0x1A6100, 0x1A6201, 0x1A6300, 0x1A6501, 0x1A6D00,
    0x1A7301, 0x1A8000, 0x1AB001, 0x1B0400, 0x1B3401, 0x1B3500, 0x1B3601, 0x1B3B00, 0x1B3C01,
    0x1B3D00, 0x1B4201, 0x1B4300, 0x1B6B01, 0x1B7400, 0x1B8001, 0x1B8200, 0x1BA201, 0x1BA600,
    0x1BA801, 0x1BAA00, 0x1BAB01, 0x1BAE00, 0x1BE601, 0x1BE700, 0x1BE801, 0x1BEA00, 0x1BED01,
    0x1BEE00, 0x1BEF01, 0x1BF200, 0x1C2C01, 0x1C3400, 0x1C3601, 0x1C3B00, 0x1CD001, 0x1CD300,
    0x1CD401, 0x1CE100, 0x1CE201, 0x1CE900, 0x1CED01, 0x1CEE00, 0x1CF401, 0x1CF500, 0x1CF801,
    0x1CFA00, 0x1DC001, 0x1E0100, 0x20D001, 0x210400, 0x2CEF01, 0x2CF300, 0x2D7F01, 0x2D8000,
    0x2DE001, 0x2E0000, 0x302A01, 0x302E00, 0x309901, 0x309D00, 0xA66F01, 0xA67300, 0xA67401,
    0xA67E00, 0xA69E01, 0xA6A000, 0xA6F001, 0xA6F200, 0xA80201, 0xA80300, 0xA80601, 0xA80700,
    0xA80B01, 0xA80C00, 0xA82501, 0xA82700, 0xA82C01, 0xA83000, 0xA84004, 0xA87202, 0xA87300,
    0xA8C401, 0xA8CE00, 0xA8E001, 0xA8F200, 0xA8FF01, 0xA90000, 0xA92601, 0xA92E00, 0xA94701,
    0xA95200, 0xA98001, 0xA98300, 0xA9B301, 0xA9B400, 0xA9B601, 0xA9BA00, 0xA9BC01, 0xA9BE00,
    0xA9E501, 0xA9E600, 0xAA2901, 0xAA2F00, 0xAA3101, 0xAA3300, 0xAA3501, 0xAA4000, 0xAA4301,
    0xAA4400, 0xAA4C01, 0xAA4D00, 0xAA7C01, 0xAA7D00, 0xAAB001, 0xAAB100, 0xAAB201, 0xAAB500,
    0xAAB701, 0xAAB900, 0xAABE01, 0xAAC000, 0xAAC101, 0xAAC200, 0xAAEC01, 0xAAEE00, 0xAAF601,
    0xAB0100, 0xABE501, 0xABE600, 0xABE801, 0xABE900, 0xABED01, 0xABF000, 0xFB1E01, 0xFBB200,
    0xFE2001, 0xFE4500, 0x101FD01, 0x1028000, 0x102E001, 0x102E100, 0x1037601, 0x1038000,
    0x10A0101, 0x10A1000, 0x10A3801, 0x10A4000, 0x10AC004, 0x10AC503, 0x10AC600, 0x10AC703,
    0x10AC800, 0x10AC903, 0x10ACB00, 0x10ACD02, 0x10ACE03, 0x10AD304, 0x10AD702, 0x10AD804,
    0x10ADD03, 0x10ADE04, 0x10AE103, 0x10AE200, 0x10AE403, 0x10AE501, 0x10AEB04, 0x10AEF03,
    0x10AF000, 0x10B8004, 0x10B8103, 0x10B8204, 0x10B8303, 0x10B8604, 0x10B8903, 0x10B8A04,
    0x10B8C03, 0x10B8D04, 0x10B8E03, 0x10B9004, 0x10B9103, 0x10B9900, 0x10BA903, 0x10BAD04,
    0x10BAF00, 0x10D0002, 0x10D0104, 0x10D2203, 0x10D2304, 0x10D2401, 0x10D3000, 0x10D6901,
    0x10D6E00, 0x10EAB01, 0x10EAD00, 0x10EC203, 0x10EC304, 0x10EC500, 0x10EC604, 0x10ED000,
    0x10EFA01, 0x10F0000, 0x10F3004, 0x10F3303, 0x10F3404, 0x10F4500, 0x10F4601, 0x10F5104,
    0x10F5403, 0x10F5500, 0x10F7004, 0x10F7403, 0x10F7604, 0x10F8201, 0x10F8600, 0x10FB004,
    0x10FB100, 0x10FB204, 0x10FB403, 0x10FB700, 0x10FB804, 0x10FB903, 0x10FBB04, 0x10FBD03,
    0x10FBE04, 0x10FC000, 0x10FC104, 0x10FC203, 0x10FC404, 0x10FC500, 0x10FC903, 0x10FCA04,
    0x10FCB02, 0x10FE000, 0x1100101, 0x1100200, 0x1103801, 0x1104700, 0x1107001, 0x1107100,
    0x1107301, 0x1107500, 0x1107F01, 0x1108200, 0x110B301, 0x110B700, 0x110B901, 0x110BB00,
    0x110C201, 0x110D000, 0x1110001, 0x1110300, 0x1112701, 0x1112C00, 0x1112D01, 0x1113600,
    0x1117301, 0x1117400, 0x1118001, 0x1118200, 0x111B601, 0x111BF00, 0x111C901, 0x111CD00,
    0x111CF01, 0x111D000, 0x1122F01, 0x1123200, 0x1123401, 0x1123500, 0x1123601, 0x1123800,
    0x1123E01, 0x1123F00, 0x1124101, 0x1128000, 0x112DF01, 0x112E000, 0x112E301, 0x112F000,
    0x1130001, 0x1130200, 0x1133B01, 0x1133D00, 0x1134001, 0x1134100, 0x1136601, 0x1138000,
    0x113BB01, 0x113C200, 0x113CE01, 0x113CF00, 0x113D001, 0x113D100, 0x113D201, 0x113D300,
    0x113E101, 0x1140000, 0x1143801, 0x1144000, 0x1144201, 0x1144500, 0x1144601, 0x1144700,
    0x1145E01, 0x1145F00, 0x114B301, 0x114B900, 0x114BA01, 0x114BB00, 0x114BF01, 0x114C100,
    0x114C201, 0x114C400, 0x115B201, 0x115B800, 0x115BC01, 0x115BE00, 0x115BF01, 0x115C100,
    0x115DC01, 0x1160000, 0x1163301, 0x1163B00, 0x1163D01, 0x1163E00, 0x1163F01, 0x1164100,
    0x116AB01, 0x116AC00, 0x116AD01, 0x116AE00, 0x116B001, 0x116B600, 0x116B701, 0x116B800,
    0x1171D01, 0x1171E00, 0x1171F01, 0x1172000, 0x1172201, 0x1172600, 0x1172701, 0x1173000,
    0x1182F01, 0x1183800, 0x1183901, 0x1183B00, 0x1193B01, 0x1193D00, 0x1193E01, 0x1193F00,
    0x1194301, 0x1194400, 0x119D401, 0x119DC00, 0x119E001, 0x119E100, 0x11A0101, 0x11A0B00,
    0x11A3301, 0x11A3900, 0x11A3B01, 0x11A3F00, 0x11A4701, 0x11A5000, 0x11A5101, 0x11A5700,
    0x11A5901, 0x11A5C00, 0x11A8A01, 0x11A9700, 0x11A9801, 0x11A9A00, 0x11B6001, 0x11B6100,
    0x11B6201, 0x11B6500, 0x11B6601, 0x11B6700, 0x11C3001, 0x11C3E00, 0x11C3F01, 0x11C4000,
    0x11C9201, 0x11CA900, 0x11CAA01, 0x11CB100, 0x11CB201, 0x11CB400, 0x11CB501, 0x11D0000,
    0x11D3101, 0x11D4600, 0x11D4701, 0x11D5000, 0x11D9001, 0x11D9300, 0x11D9501, 0x11D9600,
    0x11D9701, 0x11D9800, 0x11EF301, 0x11EF500, 0x11F0001, 0x11F0200, 0x11F3601, 0x11F3E00,
    0x11F4001, 0x11F4100, 0x11F4201, 0x11F4300, 0x11F5A01, 0x11FB000, 0x1344001, 0x1344100,
    0x1344701, 0x1346000, 0x1611E01, 0x1612A00, 0x1612D01, 0x1613000, 0x16AF001, 0x16AF500,
    0x16B3001, 0x16B3700, 0x16F4F01, 0x16F5000, 0x16F8F01, 0x16F9300, 0x16FE401, 0x16FF000,
    0x1BC9D01, 0x1BC9F00, 0x1CF0001, 0x1CF5000, 0x1D16701, 0x1D16A00, 0x1D17B01, 0x1D18300,
    0x1D18501, 0x1D18C00, 0x1D1AA01, 0x1D1AE00, 0x1D24201, 0x1D24500, 0x1DA0001, 0x1DA3700,
    0x1DA3B01, 0x1DA6D00, 0x1DA7501, 0x1DA7600, 0x1DA8401, 0x1DA8500, 0x1DA9B01, 0x1DF0000,
    0x1E00001, 0x1E10000, 0x1E13001, 0x1E13700, 0x1E2AE01, 0x1E2C000, 0x1E2EC01, 0x1E2F000,
    0x1E4EC01, 0x1E4F000, 0x1E5EE01, 0x1E5F000, 0x1E6E301, 0x1E6E400, 0x1E6E601, 0x1E6E700,
    0x1E6EE01, 0x1E6F000, 0x1E6F501, 0x1E6FE00, 0x1E8D001, 0x1E92204, 0x1E94401, 0x1E95000]⟩

end NodeTelemetry.Domain
