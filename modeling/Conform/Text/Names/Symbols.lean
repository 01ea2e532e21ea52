/-!
# Names of characters 2000 to 2FFF

The names of punctuation, symbols, arrows, shapes and the letters among them,
in the written form that `CharacterName.search` reads.
-/

namespace Conform

/-- The names of the characters 2000 to 2FFF. -/
def symbolNames : String := "
z2000a~_QUADbM_QUADbN>PACEbM>PACEaTHREE-P,-EM>PACEaFOUR-P,-EM>PACEaSIX-P,-EM>PACEaFIGUR;SPACE
aPUNCTUATI@>PACEaTH:>PACEaHAIR>PACEaZ,O_WIDTH>PACElN@-JO:,lJO:,a|FT-TO-R._M+KaR.-TO-|FT_M+KaHYPH~
aN@-BREAK:G_HYPH~aFIGUR;DASHa~_DASHbM_DASHaHORIZ@T&_B+aDOUBL;V,TIC&_L:EhLOW_L:Ea|FT>:GL;QUOTATI@_M+K
aR.>:GL;QUOTATI@_M+KaS:GL;LOW-9_QUOTATI@_M+KhHIGH-REV,SED-9_QUOTATI@_M+Ka|FT_DOUBL;QUOTATI@_M+K
aR._DOUBL;QUOTATI@_M+KaDOUBL;LOW-9_QUOTATI@_M+KhHIGH-REV,SED-9_QUOTATI@_M+KbAGG,bOUBL;DAGG,aBUL|T
aTRI=GUL+_BUL|Ta@;DOT_|AD,aTWO_DOT_|AD,aHORIZ@T&_ELLIPSISbYPH~ATI@_PO:TaL:;SEP+ATORaP+AGRAPH>EP+ATOR
a|FT-TO-R._EMBEDD:GaR.-TO-|FT_EMBEDD:GaPOP_DIRECTI@&<ATT:Ga|FT-TO-R._OV,RIDEaR.-TO-|FT_OV,RIDE
aN+ROW_NO-BREAK>PACEaP,_MILL;SIGNeT~_THOUS=D>IGNbRIMEaDOUBL;PRIMEaTRIPL;PRIMEaREV,SE^PRIME
jDOUBL;PRIMEjTRIPL;PRIMEaC+ETaS:GL;|FT-PO:T:G_=GL;QUOTATI@_M+KhR.-PO:T:G_=GL;QUOTATI@_M+KaREF,~C;M+K
aDOUBL;EXCLAMATI@_M+Ka:T,ROB=GaOV,L:EaUND,TIEaCH+ACT,_TIEb+ET_:S,TI@_PO:TaAST,ISMaHYPH~_BUL|T
aFRACTI@>LASHa|FT>QU+;BRACKET$QUILLaR.>QU+;BRACKET$QUILLaDOUBL;QUESTI@_M+KaQUESTI@_EXCLAMATI@_M+K
aEXCLAMATI@_QUESTI@_M+KaTIR@I=>IGN_ETaREV,SE^PILCROW>IGNaBLACK_|FTW+DS_BUL|TgR.W+DS_BUL|T
aLOW_AST,ISKaREV,SED>EMICOL@aCLOS;UPaTWO_AST,ISKS_&IGNE^V,TIC&LYaCOMM,CI&_M:US>IGNaSWUNG_DASH
a:V,TE^UND,TIEaFLOW,_PUNCTUATI@_M+KaTHRE;DOT_PUNCTUATI@aQUADRUPL;PRIMEaFOUR_DOT_PUNCTUATI@
bIV;DOT_PUNCTUATI@aTWO_DOT_PUNCTUATI@aFOUR_DOT_M+KaDOTTE^CROSSaTRICOL@aV,TIC&_FOUR_DOTS
aMEDIUM_MATHEMATIC&>PACEaWOR^JO:,aFUNCTI@_APPLICATI@a:VISIBL;TIMESkSEP+ATORkPLUS
z2066a|FT-TO-R._ISOLATEaR.-TO-|FT_ISOLATEaFIRST>TR@G_ISOLATEaPOP_DIRECTI@&_ISOLATE
a:HIBIT>YMMETRIC>WAPP:GaACTIVAT;SYMMETRIC>WAPP:Ga:HIBIT_+ABIC<>HAP:GaACTIVAT;+ABIC<>HAP:G
aNATI@&_DIGIT>HAPESbOM:&_DIGIT>HAPESaSUP,SCRIPT_Z,OmLAT:>M&!Iz2074mFOURnIVEmSIXnEV~mE.mN:EmPLUS>IGN
mM:USmEQU&S>IGNm|FT_P+~THESISmR._P+~THESISmLAT:>M&!NcBSCRIPT_Z,Ok@EkTWOlHREEkFOURlIVEkSIXlEV~kE.kN:E
kPLUS>IGNkM:USkEQU&S>IGNk|FT_P+~THESISkR._P+~THESISz2090aLAT:>UBSCRIPT>M&!AyTT,_EyTT,_OyTT,_X
yTT,>CHWAyTT,_HyTT,_KyTT,_LyTT,_MyTT,_NyTT,_PyTT,>yTT,_Tz20A0aEURO-CURR~CY>IGNaCOL@>IGNbRUZEIRO>IGN
aFR~CH_FR=C>IGNaLIRA>IGNaMILL>IGNaNAIRA>IGNaPESETA>IGNaRUPE;SIGNaW@>IGNaNEW>HEQEL>IGNaD@G>IGN
aEURO>IGNaKIP>IGNaTUGRIK>IGNaDRACHMA>IGNaG,M=_P~NY>IGNaPESO>IGNaGU+=I>IGNaAUSTR&>IGNaHRYVNIA>IGN
aCEDI>IGNaLIVR;TOURNOIS>IGNaSPESMILO>IGNaT~G;SIGNa:DI=_RUPE;SIGNaTURKISH_LIRA>IGNaNORDIC_M+K>IGN
aM=AT>IGNaRUBL;SIGNaL+I>IGNaBITCO:>IGNaSOM>IGNz20D0aCOMB::G_|FT_H+PO@_ABOVEkR._H+PO@_ABOVE
kL@G_V,TIC&_L:;OV,LAYkSHORT_V,TIC&_L:;OV,LAYk=TICLOCKWIS;+ROW_ABOVEkCLOCKWIS;+ROW_ABOVE
k|FT_+ROW_ABOVEkR._+ROW_ABOVEmNG_OV,LAYkCLOCKWIS;R:G_OV,LAYk=TICLOCKWIS;R:G_OV,LAYkTHRE;DOTS_ABOVE
kFOUR_DOTS_ABOVEk~CLOS:G_CIRC|uSQU+EuDIAM@DuCIRCL;BACKSLASHk|FT_R._+ROW_ABOVEk~CLOS:G>CRE~uKEYCAP
uUPW+^PO:T:G_TRI=G|kREV,S;SOLIDUS_OV,LAYkDOUBL;V,TIC&>TROK;OV,LAYk=NUITY>YMBOLkTRIPL;UND,DOT
kWID;BRIDG;ABOVEk|FTW+DS_+ROW_OV,LAYl@G_DOUBL;SOLIDUS_OV,LAYkR.W+DS_H+PO@$B+B_DOWNW+DS
k|FTW+DS_H+PO@$B+B_DOWNW+DSo_+ROW_BELOWkR._+ROW_BELOWkAST,ISK_ABOVEz2100aACCOUNT_OF
bDDRESSE^TO_TH;SUBJECTaDOUB|-STRUCK_%L_CbEGRE;CELSIUSaC~TR;L:;SYMBOLb+;OFcDA_UNAaEUL,_C@ST=TaSCRUP|
aDEGRE;FAHR~HEITaSCRIPT>M&L_Gh%L_HaBLACK-|TT,_%L_HaDOUB|-STRUCK_%L_HaPL=CK_C@ST=Tp_OV,_TWO_PI
aSCRIPT_%L_IaBLACK-|TT,_%L_IaSCRIPT_%L_LhSM&L_LaL_B_B+>YMBOLaDOUB|-STRUCK_%L_NaNUM,O>IGN
aSOUN^RECORD:G_COPYR.bCRIPT_%L_PaDOUB|-STRUCK_%L_PwQaSCRIPT_%L_RaBLACK-|TT,_%L_RaDOUB|-STRUCK_%L_R
aPRESCRIPTI@_TAKEaRESP@SEaS,VIC;M+KaTE|PH@;SIGNbRAD;M+K>IGNaV,SIC|aDOUB|-STRUCK_%L_ZaOUNC;SIGN
bHM>IGNa:V,TE^OHM>IGNaBLACK-|TT,_%L_ZaTURNE^GREEK>M&!IOTAaKELV:>IGNa=GSTROM>IGNaSCRIPT_%L_B
aBLACK-|TT,_%L_CaESTIMATED>YMBOLaSCRIPT>M&L_Eh%L_EpFaTURNE^%L_FaSCRIPT_%L_MhSM&L_Oa&EF>YMBOL
aBET>YMBOLaGIMEL>YMBOLaD&ET>YMBOLa:FORMATI@>OURCEaROTATE^%L_QaFACSIMIL;SIGNaDOUB|-STRUCK>M&L_PI
uGAMMAo%L_GAMMAwPIoN-+Y>UMMATI@aTURNED>=S-S,IF_%L_GyL_LaREV,SED>=S-S,IF_%L_LaTURNED>=S-S,IF_%L_Y
aDOUB|-STRUCK_IT&IC_%L_DvSM&L_DyLL_EyLL_IyLL_JaPROP,TY_L:EaTURNE^AMP,S=DaP,>IGNaAKTIESELSKAB
aTURNED>M&L_FaSYMBOL_FOR>AM+IT=>OURCEaVULG+_FRACTI@_@;SEV~THuN:THuT~THvHIRDqTWO_THIRDSq@;FIFTH
qTWO_FIFTHSrHRE;FIFTHSqFOUR_FIFTHSq@;SIXTHqFIV;SIXTHSq@;E.HqTHRE;E.HSqFIV;E.HSqSEV~_E.HS
aFRACTI@_NUM,ATOR_@EaROM=_NUM,&_@EoTWOpHREEoFOURpIVEoSIXpEV~oE.oN:EoT~oE|V~oTWELVEoFIFTYo@;HUNDRED
oFIV;HUNDREDo@;THOUS=DaSM&L_ROM=_NUM,&_@EuTWOvHREEuFOURvIVEuSIXvEV~uE.uN:EuT~uE|V~uTWELVEuFIFTY
u@;HUNDREDuFIV;HUNDREDu@;THOUS=DaROM=_NUM,&_@;THOUS=^C_DoFIV;THOUS=DoT~_THOUS=DoREV,SE^@;HUNDRED
aLAT:>M&!REV,SE^CaROM=_NUM,&>IX_LAT;FORMoFIFTY_E+LY<uTHOUS=Do@;HUNDRE^THOUS=D
aVULG+_FRACTI@_Z,O_THIRDSaTURNE^DIGIT_TWOoHREEz2190a|FTW+DS_+ROWaUPW+DS_+ROWaR.W+DS_+ROW
aDOWNW+DS_+ROWa|FT_R._+ROWaUP_DOWN_+ROWaNORTH_WEST_+ROWgEAST_+ROWaSOUTH_EAST_+ROWgWEST_+ROW
a|FTW+DS_+ROW$STROKEaR.W+DS_+ROW$STROKEa|FTW+DS_WAV;+ROWaR.W+DS_WAV;+ROWa|FTW+DS_TWO_HEADE^+ROW
aUPW+DS_TWO_HEADE^+ROWaR.W+DS_TWO_HEADE^+ROWaDOWNW+DS_TWO_HEADE^+ROWa|FTW+DS_+ROW$TAIL
aR.W+DS_+ROW$TAILa|FTW+DS_+ROW_FROM_B+aUPW+DS_+ROW_FROM_B+aR.W+DS_+ROW_FROM_B+aDOWNW+DS_+ROW_FROM_B+
aUP_DOWN_+ROW$BASEa|FTW+DS_+ROW$HOOKaR.W+DS_+ROW$HOOKa|FTW+DS_+ROW$LOOPaR.W+DS_+ROW$LOOP
a|FT_R._WAV;+ROWl+ROW$STROKEaDOWNW+DS_ZIGZAG_+ROWaUPW+DS_+ROW$TIP_|FTW+DSxR.W+DS
aDOWNW+DS_+ROW$TIP_|FTW+DSy_R.W+DSaR.W+DS_+ROW$CORN,_DOWNW+DSaDOWNW+DS_+ROW$CORN,_|FTW+DS
a=TICLOCKWIS;TOP>EMICIRCL;+ROWaCLOCKWIS;TOP>EMICIRCL;+ROWaNORTH_WEST_+ROW_TO_L@G_B+
a|FTW+DS_+ROW_TO_B+_OV,_R.W+DS_+ROW_TO_B+a=TICLOCKWIS;OP~_CIRCL;+ROWaCLOCKWIS;OP~_CIRCL;+ROW
a|FTW+DS_H+PO@$B+B_UPW+DSy+B_DOWNW+DSaUPW+DS_H+PO@$B+B_R.W+DSyB_|FTW+DSaR.W+DS_H+PO@$B+B_UPW+DS
yB+B_DOWNW+DSaDOWNW+DS_H+PO@$B+B_R.W+DSy+B_|FTW+DSaR.W+DS_+ROW_OV,_|FTW+DS_+ROW
aUPW+DS_+ROW_|FTW+DS_OF_DOWNW+DS_+ROWa|FTW+DS_+ROW_OV,_R.W+DS_+ROWkPAIRE^+ROWSaUPW+DS_PAIRE^+ROWS
aR.W+DS_PAIRE^+ROWSaDOWNW+DS_PAIRE^+ROWSa|FTW+DS_H+PO@_OV,_R.W+DS_H+PO@
aR.W+DS_H+PO@_OV,_|FTW+DS_H+PO@a|FTW+DS_DOUBL;+ROW$STROKEe_R._DOUBL;+ROW$STROKE
aR.W+DS_DOUBL;+ROW$STROKEa|FTW+DS_DOUBL;+ROWaUPW+DS_DOUBL;+ROWaR.W+DS_DOUBL;+ROWaDOWNW+DS_DOUBL;+ROW
a|FT_R._DOUBL;+ROWaUP_DOWN_DOUBL;+ROWaNORTH_WEST_DOUBL;+ROWgEAST_DOUBL;+ROWaSOUTH_EAST_DOUBL;+ROW
gWEST_DOUBL;+ROWa|FTW+DS_TRIPL;+ROWaR.W+DS_TRIPL;+ROWa|FTW+DS>QUIGGL;+ROWaR.W+DS>QUIGGL;+ROW
aUPW+DS_+ROW$DOUBL;STROKEaDOWNW+DS_+ROW$DOUBL;STROKEa|FTW+DS_DASHE^+ROWaUPW+DS_DASHE^+ROW
aR.W+DS_DASHE^+ROWaDOWNW+DS_DASHE^+ROWa|FTW+DS_+ROW_TO_B+aR.W+DS_+ROW_TO_B+a|FTW+DS_WHIT;+ROW
aUPW+DS_WHIT;+ROWaR.W+DS_WHIT;+ROWaDOWNW+DS_WHIT;+ROWaUPW+DS_WHIT;+ROW_FROM_B+u@_PEDEST&
yEDEST&$HORIZ@T&_B+yEDEST&$V,TIC&_B+oDOUBL;+ROWyOW_@_PEDEST&aR.W+DS_WHIT;+ROW_FROM_W&L
aNORTH_WEST_+ROW_TO_CORN,aSOUTH_EAST_+ROW_TO_CORN,aUP_DOWN_WHIT;+ROWaR._+ROW$SM&L_CIRC|
aDOWNW+DS_+ROW_|FTW+DS_OF_UPW+DS_+ROWaTHRE;R.W+DS_+ROWSa|FTW+DS_+ROW$V,TIC&>TROKE
aR.W+DS_+ROW$V,TIC&>TROKEa|FT_R._+ROW$V,TIC&>TROKEeW+DS_+ROW$DOUBL;V,TIC&>TROKE
aR.W+DS_+ROW$DOUBL;V,TIC&>TROKEa|FT_R._+ROW$DOUBL;V,TIC&>TROKEeW+DS_OP~-HEADE^+ROW
aR.W+DS_OP~-HEADE^+ROWa|FT_R._OP~-HEADE^+ROWaFOR_&LaCOMP|M~TaP+TI&_DIFF,~TI&aTH,;EXISTS
gDOES_NOT_EXISTaEMPTY>ETa:CREM~TaNABLAaE|M~T_OFaNOT_=_E|M~T_OFaSM&L_E|M~T_OFaC@TA:S_AS_MEMB,
aDOES_NOT_C@TA:_AS_MEMB,aSM&L_C@TA:S_AS_MEMB,a~^OF_PROOFaN-+Y_PRODUCTgCOPRODUCTgSUMMATI@aM:US>IGN
f-OR-PLUS>IGNaDOT_PLUSbIVISI@>LASHaSET_M:USaAST,ISK_OP,ATORaR:G_OP,ATORaBUL|T_OP,ATORaSQU+;ROOT
aCUB;ROOTaFOURTH_ROOTaPROPORTI@&_TOa:F:ITYaR._=G|a=G|aMEASURE^=G|aSPH,IC&_=G|aDIVIDESbOES_NOT_DIVIDE
aP+&|L_TOaNOT_P+&|L_TOaLOGIC&_=DiORa:T,SECTI@aUNI@a:TEGR&aDOUBL;:TEGR&aTRIPL;:TEGR&aC@TOUR_:TEGR&
aSURFAC;:TEGR&aVOLUM;:TEGR&aCLOCKWIS;:TEGR&kC@TOUR_:TEGR&a=TICLOCKWIS;C@TOUR_:TEGR&aTH,EFOREaBECAUSE
aRATIOaPROPORTI@aDOT_M:USaEXCESSaGEOMETRIC_PROPORTI@aHOMOTHETICaTILD;OP,ATORaREV,SE^TILDE
a:V,TE^LAZY>aS:;WAVEaWREATH_PRODUCTaNOT_TILDEaM:US_TILDEaASYMPTOTIC&LY_EQU&_TO
aNOT_ASYMPTOTIC&LY_EQU&_TOaAPPROXIMATELY_EQU&_TOoBUT_NOT_ACTU&LY_EQU&_TO
aNEITH,_APPROXIMATELY_NOR_ACTU&LY_EQU&_TOa&MOST_EQU&_TOaNOT_&MOST_EQU&_TOa&MOST_EQU&_OR_EQU&_TO
aTRIPL;TILDEa&L_EQU&_TOaEQUIV&~T_TOaGEOMETRIC&LY_EQUIV&~T_TOaDIFF,~C;BETWE~aAPPROACHES_TH;LIMIT
aGEOMETRIC&LY_EQU&_TOaAPPROXIMATELY_EQU&_TO_OR_TH;IMAG;OFaIMAG;OF_OR_APPROXIMATELY_EQU&_TO
aCOL@_EQU&SaEQU&S_COL@aR:G_:_EQU&_TOfEQU&_TOaCORRESP@DS_TOaESTIMATESbQUI=GUL+_TOaST+_EQU&S
aDELTA_EQU&_TOaEQU&_TO_BY_DEF:ITI@aMEASURE^BYaQUESTI@E^EQU&_TOaNOT_EQU&_TOaID~TIC&_TOaNOT_ID~TIC&_TO
aSTRICTLY_EQUIV&~T_TOa|SS-TH=_OR_EQU&_TOaGREAT,-TH=_OR_EQU&_TOa|SS-TH=_OV,_EQU&_TO
aGREAT,-TH=_OV,_EQU&_TOa|SS-TH=_BUT_NOT_EQU&_TOaGREAT,-TH=_BUT_NOT_EQU&_TOaMUCH_|SS-TH=fGREAT,-TH=
aBETWE~aNOT_EQUIV&~T_TOe|SS-TH=eGREAT,-TH=bEITH,_|SS-TH=_NOR_EQU&_TOiGREAT,-TH=_NOR_EQU&_TO
a|SS-TH=_OR_EQUIV&~T_TOaGREAT,-TH=_OR_EQUIV&~T_TOaNEITH,_|SS-TH=_NOR_EQUIV&~T_TO
iGREAT,-TH=_NOR_EQUIV&~T_TOa|SS-TH=_OR_GREAT,-TH=aGREAT,-TH=_OR_|SS-TH=
aNEITH,_|SS-TH=_NOR_GREAT,-TH=iGREAT,-TH=_NOR_|SS-TH=aPRECEDESaSUCCEEDSaPRECEDES_OR_EQU&_TO
aSUCCEEDS_OR_EQU&_TOaPRECEDES_OR_EQUIV&~T_TOaSUCCEEDS_OR_EQUIV&~T_TOaDOES_NOT_PRECEDEjSUCCEED
aSUBSET_OFcP,SET_OFaNOT_A>UBSET_OFiP,SET_OFaSUBSET_OF_OR_EQU&_TOcP,SET_OF_OR_EQU&_TO
aNEITH,_A>UBSET_OF_NOR_EQU&_TOmP,SET_OF_NOR_EQU&_TOaSUBSET_OF$NOT_EQU&_TOcP,SET_OF$NOT_EQU&_TO
aMULTISETi_MULTIPLICATI@jUNI@aSQU+;IMAG;OFhORIG:&_OFhIMAG;OF_OR_EQU&_TOhORIG:&_OF_OR_EQU&_TOhCAPiUP
aCIRC|^PLUSiM:USiTIMESiDIVISI@>LASHjOT_OP,ATORiR:G_OP,ATORiAST,ISK_OP,ATORiEQU&SiDASHaSQU+E^PLUS
iM:USiTIMESiDOT_OP,ATORaR._TACKa|FT_TACKaDOWN_TACKaUP_TACKaASS,TI@aMODELSaTRUEaFORCES
aTRIPL;V,TIC&_B+_R._TURNSTI|aDOUBL;V,TIC&_B+_DOUBL;R._TURNSTI|cES_NOT_PROVEaNOT_TRUEaDOES_NOT_FORCE
aNEGATE^DOUBL;V,TIC&_B+_DOUBL;R._TURNSTI|aPRECEDES_UND,_RELATI@aSUCCEEDS_UND,_RELATI@
aNORM&>UBGROUP_OFaC@TA:S_AS_NORM&>UBGROUPaNORM&>UBGROUP_OF_OR_EQU&_TO
aC@TA:S_AS_NORM&>UBGROUP_OR_EQU&_TOaORIG:&_OFaIMAG;OFaMULTIMAPaH,MITI=_C@JUGAT;MATRIXa:T,C&ATEaXOR
aN=DbORaR._=G|$+CgTRI=G|aN-+Y_LOGIC&_=DoORg:T,SECTI@gUNI@aDIAM@^OP,ATORbOT_OP,ATORaST+_OP,ATOR
aDIVISI@_TIMESaBOWTIEa|FT_NORM&_FACTOR>EMIDIRECT_PRODUCTaR._NORM&_FACTOR>EMIDIRECT_PRODUCT
a|FT>EMIDIRECT_PRODUCTaR.>EMIDIRECT_PRODUCTbEV,SE^TILD;EQU&SaCURLY_LOGIC&_ORo=DaDOUBL;SUBSETjP,SET
h:T,SECTI@hUNI@aPITCHFORKaEQU&_=^P+&|L_TOa|SS-TH=$DOTaGREAT,-TH=$DOTaV,Y_MUCH_|SS-TH=kGREAT,-TH=
a|SS-TH=_EQU&_TO_OR_GREAT,-TH=aGREAT,-TH=_EQU&_TO_OR_|SS-TH=aEQU&_TO_OR_|SS-TH=mGREAT,-TH=mPRECEDES
mSUCCEEDSaDOES_NOT_PRECED;OR_EQU&jSUCCEE^OR_EQU&aNOT>QU+;IMAG;OF_OR_EQU&_TOlORIG:&_OF_OR_EQU&_TO
aSQU+;IMAG;OF_OR_NOT_EQU&_TOhORIG:&_OF_OR_NOT_EQU&_TOa|SS-TH=_BUT_NOT_EQUIV&~T_TO
aGREAT,-TH=_BUT_NOT_EQUIV&~T_TOaPRECEDES_BUT_NOT_EQUIV&~T_TOaSUCCEEDS_BUT_NOT_EQUIV&~T_TO
aNOT_NORM&>UBGROUP_OFaDOES_NOT_C@TA:_AS_NORM&>UBGROUPaNOT_NORM&>UBGROUP_OF_OR_EQU&_TO
aDOES_NOT_C@TA:_AS_NORM&>UBGROUP_OR_EQU&aV,TIC&_ELLIPSISaMIDL:;HORIZ@T&_ELLIPSIS
aUP_R._DIAG@&_ELLIPSISaDOWN_R._DIAG@&_ELLIPSISaE|M~T_OF$L@G_HORIZ@T&>TROKE
qV,TIC&_B+_AT_~^OF_HORIZ@T&>TROKEaSM&L_E|M~T_OF$V,TIC&_B+_AT_~^OF_HORIZ@T&>TROKEaE|M~T_OF$DOT_ABOVE
qOV,B+aSM&L_E|M~T_OF$OV,B+aE|M~T_OF$UND,B+qTWO_HORIZ@T&>TROKESaC@TA:S$L@G_HORIZ@T&>TROKE
oV,TIC&_B+_AT_~^OF_HORIZ@T&>TROKEaSM&L_C@TA:S$V,TIC&_B+_AT_~^OF_HORIZ@T&>TROKEaC@TA:S$OV,B+
aSM&L_C@TA:S$OV,B+aZ_NOTATI@_BAG_MEMB,SHIPaDIAMET,>IGNaE|CTRIC_+ROWaHOUSEaUP_+ROWHEADaDOWN_+ROWHEAD
aPROJECTIVEb,SPECTIVEaWAVY_L:Ea|FT_CEIL:GaR._CEIL:Ga|FT_FLOORaR._FLOORaBOTTOM_R._CROPh|FT_CROP
aTOP_R._CROPe|FT_CROPaREV,SE^NOT>IGNaSQU+;LOZ~GEa+CaSEGM~TcCTORaTE|PH@;RECORD,aPOSITI@_:DICATOR
aVIEWDATA>QU+EaPLAC;OF_:T,EST>IGNaTURNE^NOT>IGNaWATCHaHOURGLASSaTOP_|FT_CORN,eR._CORN,
aBOTTOM_|FT_CORN,hR._CORN,aTOP_H&F_:TEGR&aBOTTOM_H&F_:TEGR&aFROWNaSMI|
aUP_+ROWHEA^BETWE~_TWO_HORIZ@T&_B+SaOPTI@_KEYa,AS;TO_TH;R.aX_:_A_RECT=GL;BOXaKEYBO+D
a|FT-PO:T:G_=GL;BRACKETaR.-PO:T:G_=GL;BRACKETa,AS;TO_TH;|FTaB~Z~;R:GaCYL:DRICITYa&L_+OUND-PROFI|
aSYMMETRYaTOT&_RUNOUTaDIM~SI@_ORIG:aC@IC&_TAP,aSLOPEaCOUNT,BOREhS:KaAPL_FUNCTI@&>YMBOL_I-BEAM
wSQUISH_QUADwQUA^EQU&yA^DIVIDEyA^DIAM@DyA^JOTyA^CIRC|wCIRCL;STI|yRCL;JOTwSLASH_B+wBACKSLASH_B+
wQUAD>LASHyA^BACKSLASHyA^|SS-TH=yA^GREAT,-TH=w|FTW+DS_V=EwR.W+DS_V=EwQUA^|FTW+DS_+ROWyA^R.W+DS_+ROW
wCIRCL;BACKSLASHwDOWN_TACK_UND,B+xELTA>TI|wQUA^DOWN_C+ETyA^DELTAwDOWN_TACK_JOTwUPW+DS_V=E
wQUA^UPW+DS_+ROWwUP_TACK_OV,B+wDEL>TI|wQUA^UP_C+ETyA^DELwUP_TACK_JOTwDOWNW+DS_V=EwQUA^DOWNW+DS_+ROW
yOT;UND,B+wDELTA_UND,B+xIAM@^UND,B+wJOT_UND,B+wCIRCL;UND,B+wUP>HO;JOTwQUOT;QUADwCIRCL;ST+wQUA^COL@
wUP_TACK_DIA,ESISwDEL_DIA,ESISwST+_DIA,ESISwJOT_DIA,ESISwCIRCL;DIA,ESISwDOWN>HO;STI|w|FT>HO;STI|
wTILD;DIA,ESISwGREAT,-TH=_DIA,ESISwCOMMA_B+wDEL_TILDEwZILDEwSTIL;TILDExEMICOL@_UND,B+wQUA^NOT_EQU&
yA^QUESTI@wDOWN_C+ET_TILDEwUP_C+ET_TILDEwIOTAwRHOwOMEGAw&PHA_UND,B+wEPSIL@_UND,B+wIOTA_UND,B+
wOMEGA_UND,B+w&PHAaNOT_CHECK_M+KaR._=G|$DOWNW+DS_ZIGZAG_+ROWaSHOULD,E^OP~_BOXaBELL>YMBOL
aV,TIC&_L:E$MIDDL;DOTa:S,TI@>YMBOLaC@T:UOUS_UND,L:;SYMBOLaDISC@T:UOUS_UND,L:;SYMBOLaEMPHASIS>YMBOL
aCOMPOSITI@>YMBOLaWHIT;SQU+E$C~TR;V,TIC&_L:Ea~T,>YMBOLa&T,NATIV;KEY>YMBOLaHELM>YMBOL
aCIRC|^HORIZ@T&_B+$NOTCHiTRI=GL;DOWNaBROK~_CIRC|$NORTHWEST_+ROWaUNDO>YMBOLaM@OSTABL;SYMBOL
aHYST,ESIS>YMBOLaOP~-CIRCUIT-OUTPUT_H-TYP;SYMBOLuL-TYP;SYMBOLaPASSIVE-PULL-DOWN-OUTPUT>YMBOL
nUP-OUTPUT>YMBOLaDIRECT_CURR~T>YMBOL<_TWOaSOFTW+E-FUNCTI@>YMBOLaAPL_FUNCTI@&>YMBOL_QUAD
aDECIM&>EP+ATOR_KEY>YMBOLaPREVIOUS_PAGEaNEXT_PAGEaPR:T>CRE~>YMBOLaC|+>CRE~>YMBOL
a|FT_P+~THESIS_UPP,_HOOKrEXT~SI@rLOW,_HOOKaR._P+~THESIS_UPP,_HOOKsEXT~SI@sLOW,_HOOK
a|FT>QU+;BRACKET_UPP,_CORN,uEXT~SI@uLOW,_CORN,aR.>QU+;BRACKET_UPP,_CORN,vEXT~SI@vLOW,_CORN,
a|FT_CURLY_BRACKET_UPP,_HOOKtMIDDL;PIECEtLOW,_HOOKaCURLY_BRACKET_EXT~SI@aR._CURLY_BRACKET_UPP,_HOOK
uMIDDL;PIECEuLOW,_HOOKa:TEGR&_EXT~SI@aHORIZ@T&_L:;EXT~SI@aUPP,_|FT_OR_LOW,_R._CURLY_BRACKET>ECTI@
gR._OR_LOW,_|FT_CURLY_BRACKET>ECTI@aSUMMATI@_TOPkBOTTOMaTOP>QU+;BRACKETaBOTTOM>QU+;BRACKET
v_OV,_TOP>QU+;BRACKETaRADIC&>YMBOL_BOTTOMa|FT_V,TIC&_BOX_L:EaR._V,TIC&_BOX_L:EaHORIZ@T&>C=_L:E-1v3v7
v9aD~TISTRY>YMBOL_L._V,TIC&_=^TOP_R.y,TIC&_=^BOTTOM_R.y,TIC&$CIRC|xDOWN_=^HORIZ@T&$CIRC|
xUP_=^HORIZ@T&$CIRC|xV,TIC&$TRI=G|xDOWN_=^HORIZ@T&$TRI=G|xUP_=^HORIZ@T&$TRI=G|xV,TIC&_=^WAVE
xDOWN_=^HORIZ@T&$WAVExUP_=^HORIZ@T&$WAVExDOWN_=^HORIZ@T&xUP_=^HORIZ@T&xV,TIC&_=^TOP_|FT
y,TIC&_=^BOTTOM_|FTaSQU+;FOOTaRETURN>YMBOLaEJECT>YMBOLaV,TIC&_L:;EXT~SI@aMETRIC&_BREVEjL@G_OV,>HORT
jSHORT_OV,_L@GjL@G_OV,_TWO>HORTSjTWO>HORTS_OV,_L@GuJO:EDkRISEMEkETRASEMEjP~TASEMEaE+TH_GROUNDaFUSE
aTOP_P+~THESISaBOTTOM_P+~THESISaTOP_CURLY_BRACKETaBOTTOM_CURLY_BRACKETaTOP_TORTOIS;SHELL_BRACKET
aBOTTOM_TORTOIS;SHELL_BRACKETaWHIT;TRAPEZIUMaB~Z~;R:G$CIRC|aSTRA.NESSaFLATNESSaAC_CURR~T
aE|CTRIC&_:T,SECTI@aDECIM&_EXP@~T>YMBOLaBLACK_R.-PO:T:G_DOUBL;TRI=G|g|FT-PO:T:G_DOUBL;TRI=G|
gUP-PO:T:G_DOUBL;TRI=G|gDOWN-PO:T:G_DOUBL;TRI=G|gR.-PO:T:G_DOUBL;TRI=G|$V,TIC&_B+
g|FT-PO:T:G_DOUBL;TRI=G|$V,TIC&_B+gR.-PO:T:G_TRI=G|$DOUBL;V,TIC&_B+a&+M_CLOCKaSTOPWATCHaTIM,_CLOCK
aHOURGLASS$FLOW:G>=DaBLACK_MEDIUM_|FT-PO:T:G_TRI=G|nR.-PO:T:G_TRI=G|nUP-PO:T:G_TRI=G|
nDOWN-PO:T:G_TRI=G|aDOUBL;V,TIC&_B+aBLACK>QU+;FOR>TOPgCIRCL;FOR_RECORDaPOW,>YMBOLg@-OFF>YMBOLi>YMBOL
gS|EP>YMBOLaOBS,V,_EY;SYMBOLaSYMBOL_FOR_NULLlST+T_OF_HEAD:GuTEXTl~^OF_TEXTtR=SMISSI@nQUIRY
lACKNOW|DGElBELLmACKSPACElHORIZ@T&_TABULATI@lL:;FEEDlV,TIC&_TABULATI@lFORM_FEEDlC+RIAG;RETURN
lSHIFT_OUTr:lDATA_L:K_ESCAPEmEVIC;C@TROL_@EyL_TWOyL_THREEyL_FOURlNEGATIV;ACKNOW|DGElSYNCHR@OUS_ID|
l~^OF_TR=SMISSI@_BLOCKlC=CELl~^OF_MEDIUMlSUBSTITUTElESCAPElFIL;SEP+ATORlGROUP>EP+ATORlRECORD>EP+ATOR
lUNIT>EP+ATORlSPACElDE|TEaBL=K>YMBOLaOP~_BOXaSYMBOL_FOR_NEWL:ElDE|T;FORM_TWOlSUBSTITUT;FORM_TWO
z2440aOCR_HOOKeCHAIReFORKe:V,TE^FORKeBELT_BUCK|fOW_TIEfR=CH_B=K_ID~TIFICATI@eAMOUNT_OF_CHECKeDASH
eCUSTOM,_ACCOUNT_NUMB,eDOUBL;BACKSLASHz2460aCIRC|^DIGIT_@EoTWOpHREEoFOURpIVEoSIXpEV~oE.oN:EiNUMB,_T~
pE|V~pTWELVEqHIRTE~pFOURTE~qIFTE~pSIXTE~qEV~TE~pE.E~pN:ETE~pTW~TYaP+~THESIZE^DIGIT_@EuTWOvHREEuFOUR
vIVEuSIXvEV~uE.uN:EoNUMB,_T~vE|V~vTWELVEwHIRTE~vFOURTE~wIFTE~vSIXTE~wEV~TE~vE.E~vN:ETE~vTW~TY
aDIGIT_@;FULL>TOPgTWO_FULL>TOPhHRE;FULL>TOPgFOUR_FULL>TOPhIV;FULL>TOPgSIX_FULL>TOPhEV~_FULL>TOP
gE._FULL>TOPgN:;FULL>TOPaNUMB,_T~_FULL>TOPhE|V~_FULL>TOPhTWELV;FULL>TOPiHIRTE~_FULL>TOP
hFOURTE~_FULL>TOPiIFTE~_FULL>TOPhSIXTE~_FULL>TOPiEV~TE~_FULL>TOPhE.E~_FULL>TOPhN:ETE~_FULL>TOP
hTW~TY_FULL>TOPaP+~THESIZE^LAT:>M&!Ay!By!Cy!Dy!Ey!Fy!Gy!Hy!Iy!Jy!Ky!Ly!My!Ny!Oy!Py!Qy!Ry!Sy!Ty!Uy!V
y!Wy!Xy!Yy!ZaCIRC|^LAT:_%!AyTT,_ByTT,_CyTT,_DyTT,_EyTT,_FyTT,_GyTT,_HyTT,_IyTT,_JyTT,_KyTT,_LyTT,_M
yTT,_NyTT,_OyTT,_PyTT,_QyTT,_RyTT,>yTT,_TyTT,_UyTT,_VyTT,_WyTT,_XyTT,_YyTT,_ZoSM&!Ay,_By,_Cy,_Dy,_E
y,_Fy,_Gy,_Hy,_Iy,_Jy,_Ky,_Ly,_My,_Ny,_Oy,_Py,_Qy,_Ry,>y,_Ty,_Uy,_Vy,_Wy,_Xy,_Yy,_ZiDIGIT_Z,O
aNEGATIV;CIRC|^NUMB,_E|V~yTWELVEyTHIRTE~yFOURTE~yFIFTE~ySIXTE~ySEV~TE~yE.E~yN:ETE~yTW~TY
aDOUBL;CIRC|^DIGIT_@EvTWOwHREEvFOURwIVEvSIXwEV~vE.vN:EpNUMB,_T~aNEGATIV;CIRC|^DIGIT_Z,O
aBOX_DRAW:GS_L._HORIZ@T&nHEAVY_HORIZ@T&nL._V,TIC&nHEAVY_V,TIC&nL._TRIPL;DASH_HORIZ@T&
nHEAVY_TRIPL;DASH_HORIZ@T&nL._TRIPL;DASH_V,TIC&nHEAVY_TRIPL;DASH_V,TIC&nL._QUADRUPL;DASH_HORIZ@T&
nHEAVY_QUADRUPL;DASH_HORIZ@T&nL._QUADRUPL;DASH_V,TIC&nHEAVY_QUADRUPL;DASH_V,TIC&nL._DOWN_=^R.
nDOWN_L._=^R._HEAVYsHEAVY_=^R._L.nHEAVY_DOWN_=^R.nL._DOWN_=^|FTnDOWN_L._=^|FT_HEAVYsHEAVY_=^|FT_L.
nHEAVY_DOWN_=^|FTnL._UP_=^R.nUP_L._=^R._HEAVYqHEAVY_=^R._L.nHEAVY_UP_=^R.nL._UP_=^|FT
nUP_L._=^|FT_HEAVYqHEAVY_=^|FT_L.nHEAVY_UP_=^|FTnL._V,TIC&_=^R.nV,TIC&_L._=^R._HEAVY
nUP_HEAVY_=^R._DOWN_L.nDOWN_HEAVY_=^R._UP_L.nV,TIC&_HEAVY_=^R._L.nDOWN_L._=^R._UP_HEAVY
nUP_L._=^R._DOWN_HEAVYnHEAVY_V,TIC&_=^R.nL._V,TIC&_=^|FTnV,TIC&_L._=^|FT_HEAVY
nUP_HEAVY_=^|FT_DOWN_L.nDOWN_HEAVY_=^|FT_UP_L.nV,TIC&_HEAVY_=^|FT_L.nDOWN_L._=^|FT_UP_HEAVY
nUP_L._=^|FT_DOWN_HEAVYnHEAVY_V,TIC&_=^|FTnL._DOWN_=^HORIZ@T&oEFT_HEAVY_=^R._DOWN_L.
nR._HEAVY_=^|FT_DOWN_L.nDOWN_L._=^HORIZ@T&_HEAVYsHEAVY_=^HORIZ@T&_L.nR._L._=^|FT_DOWN_HEAVY
n|FT_L._=^R._DOWN_HEAVYnHEAVY_DOWN_=^HORIZ@T&nL._UP_=^HORIZ@T&oEFT_HEAVY_=^R._UP_L.
nR._HEAVY_=^|FT_UP_L.nUP_L._=^HORIZ@T&_HEAVYqHEAVY_=^HORIZ@T&_L.nR._L._=^|FT_UP_HEAVY
n|FT_L._=^R._UP_HEAVYnHEAVY_UP_=^HORIZ@T&nL._V,TIC&_=^HORIZ@T&oEFT_HEAVY_=^R._V,TIC&_L.
nR._HEAVY_=^|FT_V,TIC&_L.nV,TIC&_L._=^HORIZ@T&_HEAVYnUP_HEAVY_=^DOWN_HORIZ@T&_L.
nDOWN_HEAVY_=^UP_HORIZ@T&_L.nV,TIC&_HEAVY_=^HORIZ@T&_L.n|FT_UP_HEAVY_=^R._DOWN_L.
nR._UP_HEAVY_=^|FT_DOWN_L.n|FT_DOWN_HEAVY_=^R._UP_L.nR._DOWN_HEAVY_=^|FT_UP_L.
nDOWN_L._=^UP_HORIZ@T&_HEAVYnUP_L._=^DOWN_HORIZ@T&_HEAVYnR._L._=^|FT_V,TIC&_HEAVY
n|FT_L._=^R._V,TIC&_HEAVYnHEAVY_V,TIC&_=^HORIZ@T&nL._DOUBL;DASH_HORIZ@T&nHEAVY_DOUBL;DASH_HORIZ@T&
nL._DOUBL;DASH_V,TIC&nHEAVY_DOUBL;DASH_V,TIC&nDOUBL;HORIZ@T&uV,TIC&pWN>:GL;=^R._DOUB|sDOUBL;=^R.>:G|
pUBL;DOWN_=^R.pWN>:GL;=^|FT_DOUB|sDOUBL;=^|FT>:G|pUBL;DOWN_=^|FTnUP>:GL;=^R._DOUB|qDOUBL;=^R.>:G|
nDOUBL;UP_=^R.nUP>:GL;=^|FT_DOUB|qDOUBL;=^|FT>:G|nDOUBL;UP_=^|FTnV,TIC&>:GL;=^R._DOUB|
wDOUBL;=^R.>:G|nDOUBL;V,TIC&_=^R.nV,TIC&>:GL;=^|FT_DOUB|wDOUBL;=^|FT>:G|nDOUBL;V,TIC&_=^|FT
pWN>:GL;=^HORIZ@T&_DOUB|sDOUBL;=^HORIZ@T&>:G|pUBL;DOWN_=^HORIZ@T&nUP>:GL;=^HORIZ@T&_DOUB|
qDOUBL;=^HORIZ@T&>:G|nDOUBL;UP_=^HORIZ@T&nV,TIC&>:GL;=^HORIZ@T&_DOUB|wDOUBL;=^HORIZ@T&>:G|
nDOUBL;V,TIC&_=^HORIZ@T&nL._+C_DOWN_=^R.yOWN_=^|FTxUP_=^|FTyP_=^R.tDIAG@&_UPP,_R._TO_LOW,_|FT
yN&_UPP,_|FT_TO_LOW,_R.yN&_CROSSt|FTtUPtR.tDOWNnHEAVY_|FTtUPtR.tDOWNnL._|FT_=^HEAVY_R.
tUP_=^HEAVY_DOWNnHEAVY_|FT_=^L._R.tUP_=^L._DOWNaUPP,_H&F_BLOCKaLOW,_@;E.H_BLOCKkQU+T,_BLOCK
gTHRE;E.HS_BLOCKgH&F_BLOCKgFIV;E.HS_BLOCKgTHRE;QU+T,S_BLOCKgSEV~_E.HS_BLOCKaFULL_BLOCK
a|FT>EV~_E.HS_BLOCKfTHRE;QU+T,S_BLOCKfFIV;E.HS_BLOCKfH&F_BLOCKfTHRE;E.HS_BLOCKf@;QU+T,_BLOCK
jE.H_BLOCKaR._H&F_BLOCKaL.>HADEaMEDIUM>HADEaD+K>HADEaUPP,_@;E.H_BLOCKaR._@;E.H_BLOCK
aQUADR=T_LOW,_|FTpR.jUPP,_|FTt_=^LOW,_|FT_=^LOW,_R.yLOW,_R.yUPP,_R._=^LOW,_|FTyUPP,_R._=^LOW,_R.pR.
u_=^LOW,_|FTy_LOW,_|FT_=^LOW,_R.aBLACK>QU+EaWHIT;SQU+Em$ROUNDE^CORN,SnC@TA::G_BLACK>M&L>QU+E
aSQU+E$HORIZ@T&_FILLmV,TIC&_FILLmORTHOG@&_CROSSHATCH_FILLmUPP,_|FT_TO_LOW,_R._FILL
sR._TO_LOW,_|FT_FILLmDIAG@&_CROSSHATCH_FILLaBLACK>M&L>QU+EaWHIT;SM&L>QU+EaBLACK_RECT=G|aWHIT;RECT=G|
aBLACK_V,TIC&_RECT=G|aWHIT;V,TIC&_RECT=G|aBLACK_P+&|LOGRAMaWHIT;P+&|LOGRAMaBLACK_UP-PO:T:G_TRI=G|
aWHIT;UP-PO:T:G_TRI=G|aBLACK_UP-PO:T:G>M&L_TRI=G|aWHIT;UP-PO:T:G>M&L_TRI=G|aBLACK_R.-PO:T:G_TRI=G|
aWHIT;R.-PO:T:G_TRI=G|aBLACK_R.-PO:T:G>M&L_TRI=G|aWHIT;R.-PO:T:G>M&L_TRI=G|aBLACK_R.-PO:T:G_PO:T,
aWHIT;R.-PO:T:G_PO:T,aBLACK_DOWN-PO:T:G_TRI=G|aWHIT;DOWN-PO:T:G_TRI=G|aBLACK_DOWN-PO:T:G>M&L_TRI=G|
aWHIT;DOWN-PO:T:G>M&L_TRI=G|aBLACK_|FT-PO:T:G_TRI=G|aWHIT;|FT-PO:T:G_TRI=G|
aBLACK_|FT-PO:T:G>M&L_TRI=G|aWHIT;|FT-PO:T:G>M&L_TRI=G|aBLACK_|FT-PO:T:G_PO:T,aWHIT;|FT-PO:T:G_PO:T,
aBLACK_DIAM@DaWHIT;DIAM@Dn_C@TA::G_BLACK>M&L_DIAM@DaFISHEYEaLOZ~GEaWHIT;CIRC|aDOTTE^CIRC|
aCIRC|$V,TIC&_FILLaBULLSEYEbLACK_CIRC|aCIRC|$|FT_H&F_BLACKmR._H&F_BLACKmLOW,_H&F_BLACK
mUPP,_H&F_BLACKsR._QUADR=T_BLACKm&L_BUT_UPP,_|FT_QUADR=T_BLACKa|FT_H&F_BLACK_CIRC|
aR._H&F_BLACK_CIRC|a:V,S;BUL|TiWHIT;CIRC|aUPP,_H&F_:V,S;WHIT;CIRC|aLOW,_H&F_:V,S;WHIT;CIRC|
aUPP,_|FT_QUADR=T_CIRCUL+_+CgR._QUADR=T_CIRCUL+_+CaLOW,_R._QUADR=T_CIRCUL+_+Cg|FT_QUADR=T_CIRCUL+_+C
aUPP,_H&F_CIRC|aLOW,_H&F_CIRC|aBLACK_LOW,_R._TRI=G|m|FT_TRI=G|gUPP,_|FT_TRI=G|mR._TRI=G|aWHIT;BUL|T
aSQU+E$|FT_H&F_BLACKmR._H&F_BLACKmUPP,_|FT_DIAG@&_H&F_BLACKmLOW,_R._DIAG@&_H&F_BLACK
aWHIT;SQU+E$V,TIC&_BISECT:G_L:EgUP-PO:T:G_TRI=G|$DOTaUP-PO:T:G_TRI=G|$|FT_H&F_BLACKyH_R._H&F_BLACK
aL+G;CIRC|aWHIT;SQU+E$UPP,_|FT_QUADR=TsLOW,_|FT_QUADR=TyR._QUADR=TsUPP,_R._QUADR=T
gCIRC|$UPP,_|FT_QUADR=TsLOW,_|FT_QUADR=TyR._QUADR=TsUPP,_R._QUADR=TaUPP,_|FT_TRI=G|gR._TRI=G|
aLOW,_|FT_TRI=G|aWHIT;MEDIUM>QU+EaBLACK_MEDIUM>QU+EaWHIT;MEDIUM>M&L>QU+EaBLACK_MEDIUM>M&L>QU+E
aLOW,_R._TRI=G|aBLACK>UN$RAYSaCLOUDaUMBRELLAaSNOWM=aCOMETaBLACK>T+aWHIT;ST+aL.N:GaTHUND,STORMaSUN
aASC~D:G_NODEaDESC~D:G_NODEaC@JUNCTI@aOPPOSITI@aBLACK_TE|PH@EaWHIT;TE|PH@EaB&LOT_BOXk$CHECKqXaS&TIRE
aUMBRELLA$RA:_DROPSaHOT_BEV,AGEaWHIT;SHOGI_PIECEaBLACK>HOGI_PIECEaSHAMROCK
aREV,SE^ROTATE^FLOR&_HE+T_BUL|TaBLACK_|FT_PO:T:G_:DEXgR._PO:T:G_:DEXaWHIT;|FT_PO:T:G_:DEX
gUP_PO:T:G_:DEXgR._PO:T:G_:DEXgDOWN_PO:T:G_:DEXaSKULL_=^CROSSB@ESaCAUTI@>IGNaRADIOACTIV;SIGN
aBIOHAZ+D>IGNaCADUCEUSa=KHaORTHODOX_CROSSaCHI_RHObROSS_OF_LORRA:EjJ,US&EMaST+_=^CRESC~TaF+SI>YMBOL
aADI>HAKTIaHAMM,_=D>ICK|aPEAC;SYMBOLaY:_Y=GaTRIGRAM_FOR_HEAV~mLAKEmFIREmTHUND,mW:DnAT,mMOUNTA:mE+TH
aWHEEL_OF_DH+MAcIT;FROWN:G_FACEgSMIL:G_FACEaBLACK>MIL:G_FACEaWHIT;SUN$RAYSaFIRST_QU+T,_MO@
aLAST_QU+T,_MO@aM,CURYaFEM&;SIGNaE+THaM&;SIGNaJUPIT,aSATURNaUR=USaNEPTUNEaPLUTOa+IESaTAURUSaGEM:I
aC=C,a|OaVIRGOaLIBRAaSCORPIUSbAGITT+IUSaCAPRICORNaAQU+IUSaPISCESaWHIT;CHESS_K:GmQUE~mROOKmBISHOPmKN.
mPAWNaBLACK_CHESS_K:GmQUE~mROOKmBISHOPmKN.mPAWNgSPAD;SUITaWHIT;HE+T>UITgDIAM@D>UITaBLACK_CLUB>UIT
aWHIT;SPAD;SUITaBLACK_HE+T>UITgDIAM@D>UITaWHIT;CLUB>UITaHOT>PR:GSaQU+T,_NOTEaE.H_NOTE
aBEAME^E.H_NOTEShSIXTE~TH_NOTESaMUSIC_FLAT>IGNgNATUR&>IGNgSH+P>IGNaWEST>YRIAC_CROSSaEAST>YRIAC_CROSS
aUNIV,S&_RECYCL:G>YMBOLaRECYCL:G>YMBOL_FOR_TYPE-1_PLASTICSyE-2_PLASTICSyE-3_PLASTICSyE-4_PLASTICS
yE-5_PLASTICSyE-6_PLASTICSyE-7_PLASTICSvG~,IC_MAT,I&SaBLACK_UNIV,S&_RECYCL:G>YMBOLaRECYC|^PAP,>YMBOL
aP+TI&LY-RECYC|^PAP,>YMBOLb,M=~T_PAP,>IGNaWHEELCHAIR>YMBOLaDI;FACE-1j2j3j4j5j6aWHIT;CIRC|$DOT_R.
sTWO_DOTSaBLACK_CIRC|$WHIT;DOT_R.sTWO_WHIT;DOTSaM@OGRAM_FOR_Y=Go:aDIGRAM_FOR_GREAT,_Y=Gl|SS,_Y:t=G
lGREAT,_Y:aWHIT;FLAGaBLACK_FLAGaHAMM,_=^PICKa=CHORaCROSSED>WORDSaSTAFF_OF_AESCULAPIUSbC&ESa&EMBIC
aFLOW,aGE+aSTAFF_OF_H,MESaATOM>YMBOLaF|UR-DE-LISaOUTL:E^WHIT;ST+aTHRE;L:ES_C@V,G:G_R.x|FTaW+N:G>IGN
aHIGH_VOLTAG;SIGNaDOUB|^FEM&;SIGNiM&;SIGNa:T,LOCKE^FEM&;=^M&;SIGNaM&;=^FEM&;SIGNfWITH>TROK;SIGN
r=^M&;=^FEM&;SIGNaV,TIC&_M&E$STROK;SIGNaHORIZ@T&_M&E$STROK;SIGNaMEDIUM_WHIT;CIRC|hBLACK_CIRC|
hSM&L_WHIT;CIRC|b+RIAG;SYMBOLaDIVORC;SYMBOLaUNM+RIE^P+TN,SHIP>YMBOLaCOFF:aFUN,&_URNaNEUT,aC,ESaP&LAS
aJUNOaVESTAaCHIR@aBLACK_MO@_LILITHaSEXTI|cMISEXTI|aQU:CUNXaSESQUIQUADRATEbOCC,_B&LaBASEB&LaSQU+E^KEY
aWHIT;DRAUGHTS_M=pK:GaBLACK_DRAUGHTS_M=pK:GaSNOWM=_WITHOUT>NOWbUN_BEH:^CLOUDaRA:aBLACK>NOWM=
aTHUND,_CLOU^=^RA:bURNE^WHIT;SHOGI_PIECEhBLACK>HOGI_PIECEaWHIT;DIAM@^:>QU+EaCROSS:G_L=ESaDISAB|^C+
aOPHIUCHUSaPICKaC+>LID:GaHELMET$WHIT;CROSSaCIRC|^CROSS:G_L=ESbHA:SaNO_~TRY
a&T,NAT;@E-WAY_|FT_WAY_TRAFFICaBLACK_TWO-WAY_|FT_WAY_TRAFFICaWHIT;TWO-WAY_|FT_WAY_TRAFFIC
aBLACK_|FT_L=;M,GEaWHIT;|FT_L=;M,GEaDRIV;SLOW>IGNaHEAVY_WHIT;DOWN-PO:T:G_TRI=G|a|FT_CLOSE^~TRY
aSQU+ED>&TIREaF&L:G_DIAG@&_:_WHIT;CIRCL;:_BLACK>QU+EaBLACK_TRUCKaRESTRICTE^|FT_~TRY-1w2
aASTR@OMIC&>YMBOL_FOR_UR=USaHEAVY_CIRC|$STROK;=^TWO_DOTS_ABOVEaP~TAGRAMaR.-H=DE^:T,LACE^P~TAGRAM
a|FT-H=DE^:T,LACE^P~TAGRAMa:V,TE^P~TAGRAMaBLACK_CROSS_@>HIELDaSH:TO>HR:EaCHURCHbAST|aHISTORIC>ITE
aGE+_WITHOUT_HUBj_H=D|SaMAP>YMBOL_FOR_L.HOUSEbOUNTA:aUMBRELLA_@_GROUNDaFOUNTA:bLAG_:_HO|b,RY
aSAILBOATbQU+;FOUR_CORN,SbKI,aIC;SKATEaP,S@$B&LaT~TaJAP=ES;B=K>YMBOLaHEADST@;GRAVEY+D>YMBOL
aFUEL_PUMPaCUP_@_BLACK>QU+EaWHIT;FLAG$HORIZ@T&_MIDDL;BLACK>TRIPEaBLACK>AFETY>CISSORS
aUPP,_BLAD;SCISSORSaBLACK>CISSORSaLOW,_BLAD;SCISSORSaWHIT;SCISSORSgHEAVY_CHECK_M+K
aTE|PH@;LOCATI@>IGNbAP;DRIVEaAIRPL=Ea~VELOPEaRAISE^FISThH=DaVICTORY_H=DaWRIT:G_H=DaLOW,_R._P~CIL
aP~CILaUPP,_R._P~CILaWHIT;NIBaBLACK_NIBaCHECK_M+KaHEAVY_CHECK_M+KaMULTIPLICATI@_X
aHEAVY_MULTIPLICATI@_XaB&LOT_XaHEAVY_B&LOT_XaOUTL:E^GREEK_CROSSaHEAVY_GREEK_CROSSaOP~_C~TR;CROSS
aHEAVY_OP~_C~TR;CROSSaLAT:_CROSSaSHADOWE^WHIT;LAT:_CROSSaOUTL:E^LAT:_CROSSaM&TES;CROSSaST+_OF_DAVID
aFOUR_TE+DROP-SPOKE^AST,ISKfB&LO@-SPOKE^AST,ISKaHEAVY_FOUR_B&LO@-SPOKE^AST,ISK
aFOUR_CLUB-SPOKE^AST,ISKaBLACK_FOUR_PO:TED>T+aWHIT;FOUR_PO:TED>T+aSP+K|SbTRESS_OUTL:E^WHIT;ST+
aCIRC|^WHIT;ST+aOP~_C~TR;BLACK>T+aBLACK_C~TR;WHIT;ST+aOUTL:E^BLACK>T+aHEAVY_OUTL:E^BLACK>T+
aP:WHEEL>T+aSHADOWE^WHIT;ST+aHEAVY_AST,ISKaOP~_C~TR;AST,ISKaE.>POKE^AST,ISKgPO:TE^BLACK>T+
oP:WHEEL>T+aSIX_PO:TE^BLACK>T+aE._PO:TE^RECTIL:E+_BLACK>T+aHEAVY_E._PO:TE^RECTIL:E+_BLACK>T+
aTWELV;PO:TE^BLACK>T+aSIXTE~_PO:TE^AST,ISKaTE+DROP-SPOKE^AST,ISKaOP~_C~TR;TE+DROP-SPOKE^AST,ISK
aHEAVY_TE+DROP-SPOKE^AST,ISKaSIX_PET&|^BLACK_=^WHIT;FLORETTEaBLACK_FLORETTEaWHIT;FLORETTE
aE._PET&|^OUTL:E^BLACK_FLORETTEaCIRC|^OP~_C~TR;E._PO:TED>T+aHEAVY_TE+DROP-SPOKE^P:WHEEL_AST,ISK
aSNOWFLAKEaT._TRIFOLIAT;SNOWFLAKEaHEAVY_CHEVR@>NOWFLAKEaSP+K|aHEAVY>P+K|aB&LO@-SPOKE^AST,ISK
aE._TE+DROP-SPOKE^PROPELL,_AST,ISKaHEAVY_E._TE+DROP-SPOKE^PROPELL,_AST,ISKaCROSS_M+K
aSHADOWE^WHIT;CIRC|aNEGATIV;SQU+E^CROSS_M+KaLOW,_R._DROP-SHADOWE^WHIT;SQU+E
aUPP,_R._DROP-SHADOWE^WHIT;SQU+EaLOW,_R.>HADOWE^WHIT;SQU+EaUPP,_R.>HADOWE^WHIT;SQU+E
aBLACK_QUESTI@_M+K_ORNAM~TaWHIT;QUESTI@_M+K_ORNAM~TgEXCLAMATI@_M+K_ORNAM~TaBLACK_DIAM@^M:US_WHIT;X
aHEAVY_EXCLAMATI@_M+K>YMBOLaL._V,TIC&_B+aMEDIUM_V,TIC&_B+aHEAVY_V,TIC&_B+
gS:GL;TURNE^COMMA_QUOTATI@_M+K_ORNAM~TnCOMMA_QUOTATI@_M+K_ORNAM~T
gDOUBL;TURNE^COMMA_QUOTATI@_M+K_ORNAM~TnCOMMA_QUOTATI@_M+K_ORNAM~T
gLOW>:GL;COMMA_QUOTATI@_M+K_ORNAM~TkDOUBL;COMMA_QUOTATI@_M+K_ORNAM~TaCURVED>TEM_P+AGRAPH>IGN_ORNAM~T
aHEAVY_EXCLAMATI@_M+K_ORNAM~TgHE+T_EXCLAMATI@_M+K_ORNAM~TgBLACK_HE+TaROTATE^HEAVY_BLACK_HE+T_BUL|T
aFLOR&_HE+TaROTATE^FLOR&_HE+T_BUL|TaMEDIUM_|FT_P+~THESIS_ORNAM~ThR._P+~THESIS_ORNAM~T
hFLATT~E^|FT_P+~THESIS_ORNAM~TrR._P+~THESIS_ORNAM~Th|FT-PO:T:G_=GL;BRACKET_ORNAM~T
hR.-PO:T:G_=GL;BRACKET_ORNAM~TaHEAVY_|FT-PO:T:G_=GL;QUOTATI@_M+K_ORNAM~T
gR.-PO:T:G_=GL;QUOTATI@_M+K_ORNAM~Tg|FT-PO:T:G_=GL;BRACKET_ORNAM~TgR.-PO:T:G_=GL;BRACKET_ORNAM~T
aL._|FT_TORTOIS;SHELL_BRACKET_ORNAM~TgR._TORTOIS;SHELL_BRACKET_ORNAM~T
aMEDIUM_|FT_CURLY_BRACKET_ORNAM~ThR._CURLY_BRACKET_ORNAM~TaD:GBAT_NEGATIV;CIRC|^DIGIT_@Ey_DIGIT_TWO
y_DIGIT_THREEy_DIGIT_FOURy_DIGIT_FIVEy_DIGIT>IXy_DIGIT>EV~y_DIGIT_E.y_DIGIT_N:Ey_NUMB,_T~
iCIRC|D>=S-S,IF_DIGIT_@EyIF_DIGIT_TWOyIF_DIGIT_THREEyIF_DIGIT_FOURyIF_DIGIT_FIVEyIF_DIGIT>IX
yIF_DIGIT>EV~yIF_DIGIT_E.yIF_DIGIT_N:EyIF_NUMB,_T~iNEGATIV;CIRC|D>=S-S,IF_DIGIT_@E
y>=S-S,IF_DIGIT_TWOy>=S-S,IF_DIGIT_THREEy>=S-S,IF_DIGIT_FOURy>=S-S,IF_DIGIT_FIVEy>=S-S,IF_DIGIT>IX
y>=S-S,IF_DIGIT>EV~y>=S-S,IF_DIGIT_E.y>=S-S,IF_DIGIT_N:Ey>=S-S,IF_NUMB,_T~
aHEAVY_WIDE-HEADE^R.W+DS_+ROWgPLUS>IGNgM:US>IGNgDIVISI@>IGNgSOUTH_EAST_+ROWgR.W+DS_+ROW
gNORTH_EAST_+ROWaDRAFT:G_PO:T_R.W+DS_+ROWaHEAVY_ROUND-TIPPE^R.W+DS_+ROWaTRI=G|-HEADE^R.W+DS_+ROW
aHEAVY_TRI=G|-HEADE^R.W+DS_+ROWaDASHE^TRI=G|-HEADE^R.W+DS_+ROWaHEAVY_DASHE^TRI=G|-HEADE^R.W+DS_+ROW
aBLACK_R.W+DS_+ROWaTHREE-^TOP-L.E^R.W+DS_+ROWHEADiBOTTOM-L.E^R.W+DS_+ROWHEADaBLACK_R.W+DS_+ROWHEAD
aHEAVY_BLACK_CURVE^DOWNW+DS_=^R.W+DS_+ROWtUPW+DS_=^R.W+DS_+ROWaSQUAT_BLACK_R.W+DS_+ROW
aHEAVY_C@CAVE-PO:TE^BLACK_R.W+DS_+ROWaR.-SHADE^WHIT;R.W+DS_+ROWa|FT-SHADE^WHIT;R.W+DS_+ROW
aBACK-TILTED>HADOWE^WHIT;R.W+DS_+ROWaFR@T-TILTED>HADOWE^WHIT;R.W+DS_+ROW
aHEAVY_LOW,_R.-SHADOWE^WHIT;R.W+DS_+ROWgUPP,_R.-SHADOWE^WHIT;R.W+DS_+ROW
aNOTCHE^LOW,_R.-SHADOWE^WHIT;R.W+DS_+ROWaCURLY_LOOPaNOTCHE^UPP,_R.-SHADOWE^WHIT;R.W+DS_+ROW
aCIRC|^HEAVY_WHIT;R.W+DS_+ROWaWHITE-FEATH,E^R.W+DS_+ROWaBLACK-FEATH,ED>OUTH_EAST_+ROWqR.W+DS_+ROW
qNORTH_EAST_+ROWaHEAVY_BLACK-FEATH,ED>OUTH_EAST_+ROWwR.W+DS_+ROWwNORTH_EAST_+ROW
aTE+DROP-B+BE^R.W+DS_+ROWaHEAVY_TE+DROP-SH=KE^R.W+DS_+ROWaWEDGE-TAI|^R.W+DS_+ROW
aHEAVY_WEDGE-TAI|^R.W+DS_+ROWaOP~-OUTL:E^R.W+DS_+ROWaDOUBL;CURLY_LOOPaTHRE;DIM~SI@&_=G|
aWHIT;TRI=GL;C@TA::G>M&L_WHIT;TRI=G|aP,P~DICUL+aOP~>UBSEThP,SETa|FT>-SHAPE^BAG_DELIMIT,
aR.>-SHAPE^BAG_DELIMIT,aOR$DOT_:SIDEaREV,S;SOLIDUS_PRECED:G>UBSETaSUP,SET_PRECED:G>OLIDUS
aV,TIC&_B+$HORIZ@T&>TROKEaMATHEMATIC&_RIS:G_DIAG@&aL@G_DIVISI@aMATHEMATIC&_F&L:G_DIAG@&
aSQU+E^LOGIC&_=DqORaWHIT;DIAM@D$C~TRE^DOTa=D$DOTaE|M~T_OF_OP~:G_UPW+DSaLOW,_R._CORN,$DOT
aUPP,_|FT_CORN,$DOTa|FT_OUT,_JO:aR._OUT,_JO:aFULL_OUT,_JO:aL+G;UP_TACKgDOWN_TACK
bEFT_=^R._DOUBL;TURNSTI|pTACKfMULTIMAPb@G_R._TACKf|FT_TACKaUP_TACK$CIRCL;ABOVE
aLOZ~G;DIVIDE^BY_HORIZ@T&_RU|aWHIT;C@CAVE-SIDE^DIAM@Dy@D$|FTW+DS_TICKy@D$R.W+DS_TICK
gSQU+E$|FTW+DS_TICKsR.W+DS_TICKaMATHEMATIC&_|FT_WHIT;SQU+;BRACKETnR._WHIT;SQU+;BRACKET
n|FT_=GL;BRACKETnR._=GL;BRACKETn|FT_DOUBL;=GL;BRACKETnR._DOUBL;=GL;BRACKET
n|FT_WHIT;TORTOIS;SHELL_BRACKETnR._WHIT;TORTOIS;SHELL_BRACKETn|FT_FLATT~E^P+~THESIS
nR._FLATT~E^P+~THESISaUPW+DS_QUADRUPL;+ROWaDOWNW+DS_QUADRUPL;+ROWa=TICLOCKWIS;GAPPE^CIRCL;+ROW
aCLOCKWIS;GAPPE^CIRCL;+ROWaR._+ROW$CIRC|^PLUSaL@G_|FTW+DS_+ROWfR.W+DS_+ROWf|FT_R._+ROW
jW+DS_DOUBL;+ROWfR.W+DS_DOUBL;+ROWf|FT_R._DOUBL;+ROWjW+DS_+ROW_FROM_B+fR.W+DS_+ROW_FROM_B+
f|FTW+DS_DOUBL;+ROW_FROM_B+fR.W+DS_DOUBL;+ROW_FROM_B+qSQUIGGL;+ROWaBRAILL;PATT,N_BL=KqDOTS-1v2v12v3
v13v23v123v4v14v24v124v34v134v234v1234v5v15v25v125v35v135v235v1235v45v145v245v1245v345v1345v2345
v12345v6v16v26v126v36v136v236v1236v46v146v246v1246v346v1346v2346v12346v56v156v256v1256v356v1356v2356
v12356v456v1456v2456v12456v3456v13456v23456v123456v7v17v27v127v37v137v237v1237v47v147v247v1247v347
v1347v2347v12347v57v157v257v1257v357v1357v2357v12357v457v1457v2457v12457v3457v13457v23457v123457v67
v167v267v1267v367v1367v2367v12367v467v1467v2467v12467v3467v13467v23467v123467v567v1567v2567v12567
v3567v13567v23567v123567v4567v14567v24567v124567v34567v134567v234567v1234567v8v18v28v128v38v138v238
v1238v48v148v248v1248v348v1348v2348v12348v58v158v258v1258v358v1358v2358v12358v458v1458v2458v12458
v3458v13458v23458v123458v68v168v268v1268v368v1368v2368v12368v468v1468v2468v12468v3468v13468v23468
v123468v568v1568v2568v12568v3568v13568v23568v123568v4568v14568v24568v124568v34568v134568v234568
v1234568v78v178v278v1278v378v1378v2378v12378v478v1478v2478v12478v3478v13478v23478v123478v578v1578
v2578v12578v3578v13578v23578v123578v4578v14578v24578v124578v34578v134578v234578v1234578v678v1678
v2678v12678v3678v13678v23678v123678v4678v14678v24678v124678v34678v134678v234678v1234678v5678v15678
v25678v125678v35678v135678v235678v1235678v45678v145678v245678v1245678v345678v1345678v2345678
v12345678aR.W+DS_TWO-HEADE^+ROW$V,TIC&>TROKEyROW$DOUBL;V,TIC&>TROKEa|FTW+DS_DOUBL;+ROW$V,TIC&>TROKE
aR.W+DS_DOUBL;+ROW$V,TIC&>TROKEa|FT_R._DOUBL;+ROW$V,TIC&>TROKEaR.W+DS_TWO-HEADE^+ROW_FROM_B+
a|FTW+DS_DOUBL;+ROW_FROM_B+aR.W+DS_DOUBL;+ROW_FROM_B+aDOWNW+DS_+ROW$HORIZ@T&>TROKE
aUPW+DS_+ROW$HORIZ@T&>TROKEiTRIPL;+ROWaDOWNW+DS_TRIPL;+ROWa|FTW+DS_DOUBL;DASH_+ROW
aR.W+DS_DOUBL;DASH_+ROWa|FTW+DS_TRIPL;DASH_+ROWaR.W+DS_TRIPL;DASH_+ROWmWO-HEADE^TRIPL;DASH_+ROW
l+ROW$DOTTED>TEMaUPW+DS_+ROW_TO_B+aDOWNW+DS_+ROW_TO_B+aR.W+DS_+ROW$TAIL$V,TIC&>TROKE
yIL$DOUBL;V,TIC&>TROKElTWO-HEADE^+ROW$TAILyROW$TAIL$V,TIC&>TROKEyROW$TAIL$DOUBL;V,TIC&>TROKE
a|FTW+DS_+ROW-TAILaR.W+DS_+ROW-TAILa|FTW+DS_DOUBL;+ROW-TAILaR.W+DS_DOUBL;+ROW-TAIL
a|FTW+DS_+ROW_TO_BLACK_DIAM@DaR.W+DS_+ROW_TO_BLACK_DIAM@Da|FTW+DS_+ROW_FROM_B+_TO_BLACK_DIAM@D
aR.W+DS_+ROW_FROM_B+_TO_BLACK_DIAM@DaNORTH_WEST_=D>OUTH_EAST_+ROWgEAST_=D>OUTH_WEST_+ROW
gWEST_+ROW$HOOKgEAST_+ROW$HOOKaSOUTH_EAST_+ROW$HOOKgWEST_+ROW$HOOKaNORTH_WEST_+ROW_=^NORTH_EAST_+ROW
gEAST_+ROW_=D>OUTH_EAST_+ROWaSOUTH_EAST_+ROW_=D>OUTH_WEST_+ROWgWEST_+ROW_=^NORTH_WEST_+ROW
aRIS:G_DIAG@&_CROSS:G_F&L:G_DIAG@&aF&L:G_DIAG@&_CROSS:G_RIS:G_DIAG@&
aSOUTH_EAST_+ROW_CROSS:G_NORTH_EAST_+ROWaNORTH_EAST_+ROW_CROSS:G>OUTH_EAST_+ROW
aF&L:G_DIAG@&_CROSS:G_NORTH_EAST_+ROWaRIS:G_DIAG@&_CROSS:G>OUTH_EAST_+ROW
aNORTH_EAST_+ROW_CROSS:G_NORTH_WEST_+ROWgWEST_+ROW_CROSS:G_NORTH_EAST_+ROW
aWAV;+ROW_PO:T:G_DIRECTLY_R.a+ROW_PO:T:G_R.W+DS_TH~_CURV:G_UPW+DSyS_TH~_CURV:G_DOWNW+DS
pDOWNW+DS_TH~_CURV:G_|FTW+DSy_TH~_CURV:G_R.W+DSaR.-SID;+C_CLOCKWIS;+ROWa|FT-SID;+C_=TICLOCKWIS;+ROW
aTOP_+C_=TICLOCKWIS;+ROWaBOTTOM_+C_=TICLOCKWIS;+ROWaTOP_+C_CLOCKWIS;+ROW$M:USi=TICLOCKWIS;+ROW$PLUS
aLOW,_R.>EMICIRCUL+_CLOCKWIS;+ROWg|FT>EMICIRCUL+_=TICLOCKWIS;+ROWa=TICLOCKWIS;CLOSE^CIRCL;+ROW
aCLOCKWIS;CLOSE^CIRCL;+ROWaR.W+DS_+ROW_ABOV;SHORT_|FTW+DS_+ROWa|FTW+DS_+ROW_ABOV;SHORT_R.W+DS_+ROW
aSHORT_R.W+DS_+ROW_ABOV;|FTW+DS_+ROWaR.W+DS_+ROW$PLUS_BELOWa|FTW+DS_+ROW$PLUS_BELOW
aR.W+DS_+ROW_THROUGH_Xa|FT_R._+ROW_THROUGH>M&L_CIRC|aUPW+DS_TWO-HEADE^+ROW_FROM>M&L_CIRC|
a|FT_B+B_UP_R._B+B_DOWN_H+PO@kDOWN_R._B+B_UP_H+PO@aUP_B+B_R._DOWN_B+B_|FT_H+PO@
i|FT_DOWN_B+B_R._H+PO@a|FT_B+B_UP_R._B+B_UP_H+PO@aUP_B+B_R._DOWN_B+B_R._H+PO@
a|FT_B+B_DOWN_R._B+B_DOWN_H+PO@aUP_B+B_|FT_DOWN_B+B_|FT_H+PO@a|FTW+DS_H+PO@$B+B_UP_TO_B+
aR.W+DS_H+PO@$B+B_UP_TO_B+aUPW+DS_H+PO@$B+B_R._TO_B+aDOWNW+DS_H+PO@$B+B_R._TO_B+
a|FTW+DS_H+PO@$B+B_DOWN_TO_B+aR.W+DS_H+PO@$B+B_DOWN_TO_B+aUPW+DS_H+PO@$B+B_|FT_TO_B+
aDOWNW+DS_H+PO@$B+B_|FT_TO_B+a|FTW+DS_H+PO@$B+B_UP_FROM_B+aR.W+DS_H+PO@$B+B_UP_FROM_B+
aUPW+DS_H+PO@$B+B_R._FROM_B+aDOWNW+DS_H+PO@$B+B_R._FROM_B+a|FTW+DS_H+PO@$B+B_DOWN_FROM_B+
aR.W+DS_H+PO@$B+B_DOWN_FROM_B+aUPW+DS_H+PO@$B+B_|FT_FROM_B+aDOWNW+DS_H+PO@$B+B_|FT_FROM_B+
a|FTW+DS_H+PO@$B+B_UP_ABOV;|FTW+DS_H+PO@$B+B_DOWNaUPW+DS_H+PO@$B+B_|FT_BESID;UPW+DS_H+PO@$B+B_R.
aR.W+DS_H+PO@$B+B_UP_ABOV;R.W+DS_H+PO@$B+B_DOWNaDOWNW+DS_H+PO@$B+B_|FT_BESID;DOWNW+DS_H+PO@$B+B_R.
a|FTW+DS_H+PO@$B+B_UP_ABOV;R.W+DS_H+PO@$B+B_UPy+B_DOWN_ABOV;R.W+DS_H+PO@$B+B_DOWN
aR.W+DS_H+PO@$B+B_UP_ABOV;|FTW+DS_H+PO@$B+B_UPyB+B_DOWN_ABOV;|FTW+DS_H+PO@$B+B_DOWN
a|FTW+DS_H+PO@$B+B_UP_ABOV;L@G_DASHy+B_DOWN_BELOW_L@G_DASHaR.W+DS_H+PO@$B+B_UP_ABOV;L@G_DASH
yB+B_DOWN_BELOW_L@G_DASHaUPW+DS_H+PO@$B+B_|FT_BESID;DOWNW+DS_H+PO@$B+B_R.
aDOWNW+DS_H+PO@$B+B_|FT_BESID;UPW+DS_H+PO@$B+B_R.aR._DOUBL;+ROW$ROUNDE^HEAD
aEQU&S>IGN_ABOV;R.W+DS_+ROWaTILD;OP,ATOR_ABOV;R.W+DS_+ROWa|FTW+DS_+ROW_ABOV;TILD;OP,ATOR
aR.W+DS_+ROW_ABOV;TILD;OP,ATORx&MOST_EQU&_TOa|SS-TH=_ABOV;|FTW+DS_+ROWcFTW+DS_+ROW_THROUGH_|SS-TH=
aGREAT,-TH=_ABOV;R.W+DS_+ROWaSUBSET_ABOV;R.W+DS_+ROWa|FTW+DS_+ROW_THROUGH>UBSET
aSUP,SET_ABOV;|FTW+DS_+ROWa|FT_FISH_TAILaR._FISH_TAILaUP_FISH_TAILaDOWN_FISH_TAIL
aTRIPL;V,TIC&_B+_DELIMIT,aZ_NOTATI@>POTlTYP;COL@a|FT_WHIT;CURLY_BRACKETaR._WHIT;CURLY_BRACKET
a|FT_WHIT;P+~THESISaR._WHIT;P+~THESISaZ_NOTATI@_|FT_IMAG;BRACKETlR._IMAG;BRACKETl|FT_B:D:G_BRACKET
lR._B:D:G_BRACKETa|FT>QU+;BRACKET$UND,B+aR.>QU+;BRACKET$UND,B+a|FT>QU+;BRACKET$TICK_:_TOP_CORN,
aR.>QU+;BRACKET$TICK_:_BOTTOM_CORN,a|FT>QU+;BRACKET$TICK_:_BOTTOM_CORN,
aR.>QU+;BRACKET$TICK_:_TOP_CORN,a|FT_=GL;BRACKET$DOTaR._=GL;BRACKET$DOTa|FT_+C_|SS-TH=_BRACKET
aR._+C_GREAT,-TH=_BRACKETaDOUBL;|FT_+C_GREAT,-TH=_BRACKEThR._+C_|SS-TH=_BRACKET
a|FT_BLACK_TORTOIS;SHELL_BRACKETaR._BLACK_TORTOIS;SHELL_BRACKETaDOTTE^F~CEaV,TIC&_ZIGZAG_L:E
aMEASURE^=GL;OP~:G_|FTaR._=GL;V+I=T$SQU+EaMEASURE^R._=G|$DOTa=G|$S_:SIDEbCUT;=G|
aSPH,IC&_=GL;OP~:G_|FTyUPaTURNE^=G|aREV,SE^=G|a=G|$UND,B+aREV,SE^=G|$UND,B+aOBLIQU;=GL;OP~:G_UPwDOWN
aMEASURE^=G|$OP~_+M_~D:G_:_+ROW_PO:T:G_UP_=^R.y_+M_~D:G_:_+ROW_PO:T:G_UP_=^|FT
y_+M_~D:G_:_+ROW_PO:T:G_DOWN_=^R.y_+M_~D:G_:_+ROW_PO:T:G_DOWN_=^|FTy_+M_~D:G_:_+ROW_PO:T:G_R._=^UP
y_+M_~D:G_:_+ROW_PO:T:G_|FT_=^UPy_+M_~D:G_:_+ROW_PO:T:G_R._=^DOWNy_+M_~D:G_:_+ROW_PO:T:G_|FT_=^DOWN
aREV,SE^EMPTY>ETaEMPTY>ET$OV,B+pSM&L_CIRCL;ABOVEpR._+ROW_ABOVEp|FT_+ROW_ABOVEaCIRC|$HORIZ@T&_B+
g^V,TIC&_B+iP+&|LiREV,S;SOLIDUSiP,P~DICUL+g_DIVIDE^BY_HORIZ@T&_B+_=^TOP_H&F_DIVIDE^BY_V,TIC&_B+
hWITH>UP,IMPOSE^Xg^=TICLOCKWISE-ROTATE^DIVISI@>IGNaUP_+ROW_THROUGH_CIRC|aCIRC|^WHIT;BUL|TiBUL|T
i|SS-TH=iGREAT,-TH=g$SM&L_CIRCL;TO_TH;R.mTWO_HORIZ@T&>TROKES_TO_TH;R.aSQU+E^RIS:G_DIAG@&>LASH
iF&L:G_DIAG@&>LASHiAST,ISKiSM&L_CIRC|jQU+EaTWO_JO:ED>QU+ESbRI=G|$DOT_ABOVEoUND,B+aS_:_TRI=G|
aTRI=G|$S,IFS_AT_BOTTOMaR._TRI=GL;ABOV;|FT_TRI=G|a|FT_TRI=GL;BESID;V,TIC&_B+
aV,TIC&_B+_BESID;R._TRI=G|aBOWTIE$|FT_H&F_BLACKmR._H&F_BLACKbLACK_BOWTIEaTIMES$|FT_H&F_BLACK
lR._H&F_BLACKaWHIT;HOURGLASSaBLACK_HOURGLASSa|FT_WIGGLY_F~CEaR._WIGGLY_F~CEa|FT_DOUBL;WIGGLY_F~CE
aR._DOUBL;WIGGLY_F~CEa:COMP|T;:F:ITYaTI;OV,_:F:ITYa:F:ITY_NEGATED$V,TIC&_B+aDOUB|-~DE^MULTIMAP
aSQU+E$C@TOURE^OUTL:Ea:CREASES_ASaSHUFFL;PRODUCTaEQU&S>IGN_=D>L=TE^P+&|LyP+&|L$TILD;ABOVE
aID~TIC&_TO_=D>L=TE^P+&|LaG|ICH>T+KaTH,MODYNAMICaDOWN-PO:T:G_TRI=G|$|FT_H&F_BLACKyITH_R._H&F_BLACK
aBLACK_DIAM@D$DOWN_+ROWgLOZ~GEaWHIT;CIRC|$DOWN_+ROWaBLACK_CIRC|$DOWN_+ROWa,ROR-B+RE^WHIT;SQU+E
nBLACK>QU+EnWHIT;DIAM@DnBLACK_DIAM@DnWHIT;CIRC|nBLACK_CIRC|aRU|-DELAYEDbEV,S;SOLIDUS_OP,ATOR
aSOLIDUS$OV,B+aREV,S;SOLIDUS$HORIZ@T&>TROKEaBIG>OLIDUSeREV,S;SOLIDUSaDOUBL;PLUSaTRIPL;PLUS
a|FT-PO:T:G_CURVE^=GL;BRACKETaR.-PO:T:G_CURVE^=GL;BRACKETaT:YaM:YaN-+Y_CIRC|^DOT_OP,ATOR
oPLUS_OP,ATORoTIMES_OP,ATORgUNI@_OP,ATOR$DOTyH_PLUSgSQU+;:T,SECTI@_OP,ATORnUNI@_OP,ATOR
aTWO_LOGIC&_=^OP,ATORmOR_OP,ATORaN-+Y_TIMES_OP,ATORaMODULO_TWO>UMaSUMMATI@$:TEGR&
aQUADRUPL;:TEGR&_OP,ATORaF:IT;P+T_:TEGR&a:TEGR&$DOUBL;STROKEjAV,AGE$SLASHaCIRCULATI@_FUNCTI@
a=TICLOCKWIS;:TEGRATI@aL:;:TEGRATI@$RECT=GUL+_PATH_+OUN^PO|wSEMICIRCUL+_PATH_+OUN^PO|
rNOT_:CLUD:G_TH;PO|a:TEGR&_+OUN^A_PO:T_OP,ATORaQUAT,NI@_:TEGR&_OP,ATORa:TEGR&$|FTW+DS_+ROW$HOOK
oTIMES>IGNo:T,SECTI@oUNI@oOV,B+oUND,B+aJO:aL+G;|FT_TRI=GL;OP,ATORaZ_NOTATI@>CHEMA_COMPOSITI@sPIP:G
tROJECTI@aPLUS>IGN$SM&L_CIRCL;ABOVEpCIRCUMF|X_ACC~T_ABOVEpTILD;ABOVEpDOT_BELOWpTILD;BELOW
pSUBSCRIPT_TWOpBLACK_TRI=G|aM:US>IGN$COMMA_ABOVEqDOT_BELOWqF&L:G_DOTSqRIS:G_DOTS
aPLUS>IGN_:_|FT_H&F_CIRC|nR._H&F_CIRC|aVECTOR_OR_CROSS_PRODUCTaMULTIPLICATI@>IGN$DOT_ABOVEy_UND,B+
aSEMIDIRECT_PRODUCT$BOTTOM_CLOSEDbMASH_PRODUCTaMULTIPLICATI@>IGN_:_|FT_H&F_CIRC|xR._H&F_CIRC|
aCIRC|^MULTIPLICATI@>IGN$CIRCUMF|X_ACC~TaMULTIPLICATI@>IGN_:_DOUBL;CIRC|aCIRC|^DIVISI@>IGN
aPLUS>IGN_:_TRI=G|aM:US>IGN_:_TRI=G|bULTIPLICATI@>IGN_:_TRI=G|a:T,IOR_PRODUCTaR.H=^:T,IOR_PRODUCT
aZ_NOTATI@_RELATI@&_COMPOSITI@aAM&GAMATI@_OR_COPRODUCTa:T,SECTI@$DOTaUNI@$M:US>IGNlOV,B+
a:T,SECTI@$OV,B+sLOGIC&_=DaUNI@$LOGIC&_ORgABOV;:T,SECTI@a:T,SECTI@_ABOV;UNI@
aUNI@_ABOV;B+_ABOV;:T,SECTI@a:T,SECTI@_ABOV;B+_ABOV;UNI@aUNI@_BESID;=^JO:ED$UNI@
a:T,SECTI@_BESID;=^JO:ED$:T,SECTI@aCLOSE^UNI@$S,IFSh:T,SECTI@$S,IFSaDOUBL;SQU+;:T,SECTI@oUNI@
aCLOSE^UNI@$S,IFS_=D>MASH_PRODUCTaLOGIC&_=D$DOT_ABOVEiOR$DOT_ABOVEaDOUBL;LOGIC&_=DpOR
aTWO_:T,SECT:G_LOGIC&_=Dy_ORaSLOP:G_L+G;ORo=DaLOGIC&_OR_OV,LAPP:G_LOGIC&_=Di=D$MIDDL;STEM
iOR$MIDDL;STEMi=D$HORIZ@T&_DASHiOR$HORIZ@T&_DASHi=D$DOUBL;OV,B+rUND,B+rDOUBL;UND,B+aSM&L_VEE$UND,B+
aLOGIC&_OR$DOUBL;OV,B+xUND,B+aZ_NOTATI@_DOMA:_=TIRESTRICTI@lR=G;=TIRESTRICTI@aEQU&S>IGN$DOT_BELOW
aID~TIC&$DOT_ABOVEaTRIPL;HORIZ@T&_B+$DOUBL;V,TIC&>TROKEyTH_TRIPL;V,TIC&>TROKEbILD;OP,ATOR$DOT_ABOVE
uRIS:G_DOTSaSIMIL+_M:US>IMIL+aC@GRU~T$DOT_ABOVEaEQU&S$AST,ISKa&MOST_EQU&_TO$CIRCUMF|X_ACC~T
bPPROXIMATELY_EQU&_OR_EQU&_TOaEQU&S>IGN_ABOV;PLUS>IGNaPLUS>IGN_ABOV;EQU&S>IGN
aEQU&S>IGN_ABOV;TILD;OP,ATORaDOUBL;COL@_EQU&aTWO_C@SECUTIV;EQU&S>IGNSbHRE;C@SECUTIV;EQU&S>IGNS
aEQU&S>IGN$TWO_DOTS_ABOV;=^TWO_DOTS_BELOWdIV&~T$FOUR_DOTS_ABOVEa|SS-TH=$CIRCL;:SIDE
aGREAT,-TH=$CIRCL;:SIDEa|SS-TH=$QUESTI@_M+K_ABOVEaGREAT,-TH=$QUESTI@_M+K_ABOVE
a|SS-TH=_OR>L=TE^EQU&_TOaGREAT,-TH=_OR>L=TE^EQU&_TOa|SS-TH=_OR>L=TE^EQU&_TO$DOT_:SIDE
aGREAT,-TH=_OR>L=TE^EQU&_TO$DOT_:SIDEa|SS-TH=_OR>L=TE^EQU&_TO$DOT_ABOVE
aGREAT,-TH=_OR>L=TE^EQU&_TO$DOT_ABOVEa|SS-TH=_OR>L=TE^EQU&_TO$DOT_ABOV;R.
aGREAT,-TH=_OR>L=TE^EQU&_TO$DOT_ABOV;|FTa|SS-TH=_OR_APPROXIMATEaGREAT,-TH=_OR_APPROXIMATE
a|SS-TH=_=D>:G|-L:;NOT_EQU&_TOaGREAT,-TH=_=D>:G|-L:;NOT_EQU&_TOa|SS-TH=_=^NOT_APPROXIMATE
aGREAT,-TH=_=^NOT_APPROXIMATEa|SS-TH=_ABOV;DOUB|-L:;EQU&_ABOV;GREAT,-TH=
aGREAT,-TH=_ABOV;DOUB|-L:;EQU&_ABOV;|SS-TH=a|SS-TH=_ABOV;SIMIL+_OR_EQU&
aGREAT,-TH=_ABOV;SIMIL+_OR_EQU&a|SS-TH=_ABOV;SIMIL+_ABOV;GREAT,-TH=
aGREAT,-TH=_ABOV;SIMIL+_ABOV;|SS-TH=a|SS-TH=_ABOV;GREAT,-TH=_ABOV;DOUB|-L:;EQU&
aGREAT,-TH=_ABOV;|SS-TH=_ABOV;DOUB|-L:;EQU&a|SS-TH=_ABOV;SL=TE^EQU&_ABOV;GREAT,-TH=_ABOV;SL=TE^EQU&
aGREAT,-TH=_ABOV;SL=TE^EQU&_ABOV;|SS-TH=_ABOV;SL=TE^EQU&aSL=TE^EQU&_TO_OR_|SS-TH=uGREAT,-TH=
u|SS-TH=$DOT_:SIDEuGREAT,-TH=$DOT_:SIDEaDOUB|-L:;EQU&_TO_OR_|SS-TH=yGREAT,-TH=
mSL=TE^EQU&_TO_OR_|SS-TH=yL_TO_OR_GREAT,-TH=aSIMIL+_OR_|SS-TH=lGREAT,-TH=
iABOV;|SS-TH=_ABOV;EQU&S>IGNoGREAT,-TH=_ABOV;EQU&S>IGNaDOUBL;NESTE^|SS-TH=oGREAT,-TH=o|SS-TH=$UND,B+
aGREAT,-TH=_OV,LAPP:G_|SS-TH=nBESID;|SS-TH=a|SS-TH=_CLOSE^BY_CURVEaGREAT,-TH=_CLOSE^BY_CURVE
a|SS-TH=_CLOSE^BY_CURV;ABOV;SL=TE^EQU&aGREAT,-TH=_CLOSE^BY_CURV;ABOV;SL=TE^EQU&aSM&L,_TH=aL+G,_TH=
aSM&L,_TH=_OR_EQU&_TOaL+G,_TH=_OR_EQU&_TOaEQU&S>IGN$BUMPY_ABOVEaPRECEDES_ABOV;S:G|-L:;EQU&S>IGN
aSUCCEEDS_ABOV;S:G|-L:;EQU&S>IGNaPRECEDES_ABOV;S:G|-L:;NOT_EQU&_TOaSUCCEEDS_ABOV;S:G|-L:;NOT_EQU&_TO
aPRECEDES_ABOV;EQU&S>IGNaSUCCEEDS_ABOV;EQU&S>IGNaPRECEDES_ABOV;NOT_EQU&_TOaSUCCEEDS_ABOV;NOT_EQU&_TO
aPRECEDES_ABOV;&MOST_EQU&_TOaSUCCEEDS_ABOV;&MOST_EQU&_TOaPRECEDES_ABOV;NOT_&MOST_EQU&_TO
aSUCCEEDS_ABOV;NOT_&MOST_EQU&_TOaDOUBL;PRECEDEShSUCCEEDSaSUBSET$DOTcP,SET$DOTcBSET$PLUS>IGN_BELOW
cP,SET$PLUS>IGN_BELOWcBSET$MULTIPLICATI@>IGN_BELOWcP,SET$MULTIPLICATI@>IGN_BELOW
cBSET_OF_OR_EQU&_TO$DOT_ABOVEcP,SET_OF_OR_EQU&_TO$DOT_ABOVEcBSET_OF_ABOV;EQU&S>IGN
cP,SET_OF_ABOV;EQU&S>IGNcBSET_OF_ABOV;TILD;OP,ATORcP,SET_OF_ABOV;TILD;OP,ATOR
cBSET_OF_ABOV;&MOST_EQU&_TOcP,SET_OF_ABOV;&MOST_EQU&_TOcBSET_OF_ABOV;NOT_EQU&_TO
cP,SET_OF_ABOV;NOT_EQU&_TObQU+;|FT_OP~_BOX_OP,ATORhR._OP~_BOX_OP,ATORaCLOSED>UBSETjP,SET
jBSET_OR_EQU&_TOjP,SET_OR_EQU&_TOaSUBSET_ABOV;SUP,SETcP,SET_ABOV;SUBSETcBSET_ABOV;SUBSET
cP,SET_ABOV;SUP,SETjBESID;SUBSETq=^JO:E^BY_DASH$SUBSETaE|M~T_OF_OP~:G_DOWNW+DSaPITCHFORK$TE;TOP
aTR=SV,S&_:T,SECTI@aFORK:GaN@FORK:GaSHORT_|FT_TACKgDOWN_TACKgUP_TACKaP,P~DICUL+$S
aV,TIC&_B+_TRIPL;R._TURNSTI|aDOUBL;V,TIC&_B+_|FT_TURNSTI|aV,TIC&_B+_DOUBL;|FT_TURNSTI|
aDOUBL;V,TIC&_B+_DOUBL;|FT_TURNSTI|aL@G_DASH_FROM_|FT_MEMB,_OF_DOUBL;V,TIC&aSHORT_DOWN_TACK$OV,B+
gUP_TACK$UND,B+oABOV;SHORT_DOWN_TACKaDOUBL;DOWN_TACKhUP_TACKhSTROK;NOT>IGN
aREV,SE^DOUBL;STROK;NOT>IGNaDOES_NOT_DIVIDE$REV,SE^NEGATI@>LASHaV,TIC&_L:E$CIRCL;ABOVEy;BELOW
aDOWN_TACK$CIRCL;BELOWaP+&|L$HORIZ@T&>TROKEoTILD;OP,ATORaTRIPL;V,TIC&_B+_B:+Y_RELATI@
uWITH_HORIZ@T&>TROKEhCOL@_OP,ATORhNESTE^|SS-TH=oGREAT,-TH=aDOUB|-L:;SL=TE^|SS-TH=_OR_EQU&_TO
uGREAT,-TH=_OR_EQU&_TOaTRIPL;SOLIDUS_B:+Y_RELATI@aL+G;TRIPL;V,TIC&_B+_OP,ATORaDOUBL;SOLIDUS_OP,ATOR
aWHIT;V,TIC&_B+aN-+Y_WHIT;V,TIC&_B+bORTH_EAST_WHIT;+ROWgWEST_WHIT;+ROWaSOUTH_EAST_WHIT;+ROW
gWEST_WHIT;+ROWa|FT_R._WHIT;+ROWeW+DS_BLACK_+ROWaUPW+DS_BLACK_+ROWaDOWNW+DS_BLACK_+ROW
aNORTH_EAST_BLACK_+ROWgWEST_BLACK_+ROWaSOUTH_EAST_BLACK_+ROWgWEST_BLACK_+ROWa|FT_R._BLACK_+ROW
aUP_DOWN_BLACK_+ROWaR.W+DS_+ROW$TIP_DOWNW+DSyP_UPW+DSa|FTW+DS_+ROW$TIP_DOWNW+DSy_UPW+DS
aSQU+E$TOP_H&F_BLACKmBOTTOM_H&F_BLACKmUPP,_R._DIAG@&_H&F_BLACKmLOW,_|FT_DIAG@&_H&F_BLACK
aDIAM@D$|FT_H&F_BLACKnR._H&F_BLACKnTOP_H&F_BLACKnBOTTOM_H&F_BLACKbOTTED>QU+EaBLACK_L+G;SQU+E
aWHIT;L+G;SQU+EaBLACK_V,Y>M&L>QU+EaWHIT;V,Y>M&L>QU+EaBLACK_P~TAG@aWHIT;P~TAG@gHEXAG@aBLACK_HEXAG@
aHORIZ@T&_BLACK_HEXAG@aBLACK_L+G;CIRC|gMEDIUM_DIAM@DaWHIT;MEDIUM_DIAM@DaBLACK_MEDIUM_LOZ~GE
aWHIT;MEDIUM_LOZ~GEaBLACK>M&L_DIAM@DmLOZ~GEaWHIT;SM&L_LOZ~GEaBLACK_HORIZ@T&_ELLIPSE
aWHIT;HORIZ@T&_ELLIPSEaBLACK_V,TIC&_ELLIPSEaWHIT;V,TIC&_ELLIPSEa|FT_+ROW$SM&L_CIRC|
aTHRE;|FTW+DS_+ROWSa|FT_+ROW$CIRC|^PLUSb@G_|FTW+DS>QUIGGL;+ROWbEFTW+DS_TWO-HEADE^+ROW$V,TIC&>TROKE
yOW$DOUBL;V,TIC&>TROKEyOW_FROM_B+vTRIPL;DASH_+ROWk+ROW$DOTTED>TEMvTAIL$V,TIC&>TROKE
yL$DOUBL;V,TIC&>TROKEkTWO-HEADE^+ROW$TAILyOW$TAIL$V,TIC&>TROKEyOW$TAIL$DOUBL;V,TIC&>TROKE
k+ROW_THROUGH_XaWAV;+ROW_PO:T:G_DIRECTLY_|FTaEQU&S>IGN_ABOV;|FTW+DS_+ROW
aREV,S;TILD;OP,ATOR_ABOV;|FTW+DS_+ROWa|FTW+DS_+ROW_ABOV;REV,S;&MOST_EQU&_TO
aR.W+DS_+ROW_THROUGH_GREAT,-TH=y>UP,SETa|FTW+DS_QUADRUPL;+ROWaR.W+DS_QUADRUPL;+ROW
bEV,S;TILD;OP,ATOR_ABOV;R.W+DS_+ROWb.W+DS_+ROW_ABOV;REV,S;&MOST_EQU&_TO
aTILD;OP,ATOR_ABOV;|FTW+DS_+ROWa|FTW+DS_+ROW_ABOV;&MOST_EQU&_TOwREV,S;TILD;OP,ATOR
aR.W+DS_+ROW_ABOV;REV,S;TILD;OP,ATORaDOWNW+DS_TRI=G|-HEADE^ZIGZAG_+ROWaSHORT>L=TE^NORTH_+ROW
gBACKSL=TED>OUTH_+ROWaWHIT;MEDIUM>T+aBLACK>M&L>T+aWHIT;SM&L>T+aBLACK_R.-PO:T:G_P~TAG@
aWHIT;R.-PO:T:G_P~TAG@aHEAVY_L+G;CIRC|gOV&$OV&_:SIDEgCIRC|$CIRCL;:SIDEmmD>&TIRE
aSL=TE^NORTH_+ROW$HOOKE^HEADaBACKSL=TED>OUTH_+ROW$HOOKE^TAILaSL=TE^NORTH_+ROW$HORIZ@T&_TAIL
aBACKSL=TED>OUTH_+ROW$HORIZ@T&_TAILb~T_+ROW_PO:T:G_DOWNW+DS_TH~_NORTH_EAST
aSHORT_B~T_+ROW_PO:T:G_DOWNW+DS_TH~_NORTH_EASTa|FTW+DS_TRI=G|-HEADE^+ROWaUPW+DS_TRI=G|-HEADE^+ROW
aR.W+DS_TRI=G|-HEADE^+ROWaDOWNW+DS_TRI=G|-HEADE^+ROWa|FT_R._TRI=G|-HEADE^+ROW
aUP_DOWN_TRI=G|-HEADE^+ROWaNORTH_WEST_TRI=G|-HEADE^+ROWgEAST_TRI=G|-HEADE^+ROW
aSOUTH_EAST_TRI=G|-HEADE^+ROWgWEST_TRI=G|-HEADE^+ROWa|FTW+DS_TRI=G|-HEADE^DASHE^+ROW
aUPW+DS_TRI=G|-HEADE^DASHE^+ROWaR.W+DS_TRI=G|-HEADE^DASHE^+ROWaDOWNW+DS_TRI=G|-HEADE^DASHE^+ROW
aCLOCKWIS;TRI=G|-HEADE^OP~_CIRCL;+ROWa=TICLOCKWIS;TRI=G|-HEADE^OP~_CIRCL;+ROW
a|FTW+DS_TRI=G|-HEADE^+ROW_TO_B+aUPW+DS_TRI=G|-HEADE^+ROW_TO_B+aR.W+DS_TRI=G|-HEADE^+ROW_TO_B+
aDOWNW+DS_TRI=G|-HEADE^+ROW_TO_B+z2B76aNORTH_WEST_TRI=G|-HEADE^+ROW_TO_B+
gEAST_TRI=G|-HEADE^+ROW_TO_B+aSOUTH_EAST_TRI=G|-HEADE^+ROW_TO_B+gWEST_TRI=G|-HEADE^+ROW_TO_B+
a|FTW+DS_TRI=G|-HEADE^+ROW$DOUBL;HORIZ@T&>TROKEaUPW+DS_TRI=G|-HEADE^+ROW$DOUBL;HORIZ@T&>TROKE
aR.W+DS_TRI=G|-HEADE^+ROW$DOUBL;HORIZ@T&>TROKEaDOWNW+DS_TRI=G|-HEADE^+ROW$DOUBL;HORIZ@T&>TROKE
aHORIZ@T&_TAB_KEYaV,TIC&_TAB_KEYa|FTW+DS_TRI=G|-HEADE^+ROW_OV,_R.W+DS_TRI=G|-HEADE^+ROW
aUPW+DS_TRI=G|-HEADE^+ROW_|FTW+DS_OF_DOWNW+DS_TRI=G|-HEADE^+ROW
aR.W+DS_TRI=G|-HEADE^+ROW_OV,_|FTW+DS_TRI=G|-HEADE^+ROW
aDOWNW+DS_TRI=G|-HEADE^+ROW_|FTW+DS_OF_UPW+DS_TRI=G|-HEADE^+ROWa|FTW+DS_TRI=G|-HEADE^PAIRE^+ROWS
aUPW+DS_TRI=G|-HEADE^PAIRE^+ROWSaR.W+DS_TRI=G|-HEADE^PAIRE^+ROWSaDOWNW+DS_TRI=G|-HEADE^PAIRE^+ROWS
a|FTW+DS_BLACK_CIRC|^WHIT;+ROWaUPW+DS_BLACK_CIRC|^WHIT;+ROWaR.W+DS_BLACK_CIRC|^WHIT;+ROW
aDOWNW+DS_BLACK_CIRC|^WHIT;+ROWa=TICLOCKWIS;TRI=G|-HEADE^R._U-SHAPE^+ROWyEADE^BOTTOM_U-SHAPE^+ROW
yEADE^|FT_U-SHAPE^+ROWyEADE^TOP_U-SHAPE^+ROWaRETURN_|FThR.aNEWL:;|FTiR.
aFOUR_CORN,_+ROWS_CIRCL:G_=TICLOCKWISEaR.W+DS_BLACK_+ROWz2B97aSYMBOL_FOR_TYP;A_E|CTR@ICS
aTHREE-^TOP-L.E^|FTW+DS_EQUILAT,&_+ROWHEADiR.-L.E^UPW+DS_EQUILAT,&_+ROWHEAD
iTOP-L.E^R.W+DS_EQUILAT,&_+ROWHEADi|FT-L.E^DOWNW+DS_EQUILAT,&_+ROWHEAD
aBLACK_|FTW+DS_EQUILAT,&_+ROWHEADgUPW+DS_EQUILAT,&_+ROWHEADgR.W+DS_EQUILAT,&_+ROWHEAD
gDOWNW+DS_EQUILAT,&_+ROWHEADaDOWNW+DS_TRI=G|-HEADE^+ROW$L@G_TIP_|FTW+DSy^+ROW$L@G_TIP_R.W+DS
aUPW+DS_TRI=G|-HEADE^+ROW$L@G_TIP_|FTW+DSy+ROW$L@G_TIP_R.W+DS
a|FTW+DS_TRI=G|-HEADE^+ROW$L@G_TIP_UPW+DSaR.W+DS_TRI=G|-HEADE^+ROW$L@G_TIP_UPW+DS
a|FTW+DS_TRI=G|-HEADE^+ROW$L@G_TIP_DOWNW+DSaR.W+DS_TRI=G|-HEADE^+ROW$L@G_TIP_DOWNW+DS
aBLACK_CURVE^DOWNW+DS_=^|FTW+DS_+ROWyN^R.W+DS_+ROWnUPW+DS_=^|FTW+DS_+ROWy_R.W+DS_+ROW
n|FTW+DS_=^UPW+DS_+ROWnR.W+DS_=^UPW+DS_+ROWn|FTW+DS_=^DOWNW+DS_+ROWnR.W+DS_=^DOWNW+DS_+ROW
aRIBB@_+ROW_DOWN_|FTsR.nUP_|FTqR.n|FT_UPnR._UPn|FT_DOWNnR._DOWNaUPW+DS_WHIT;+ROW_FROM_B+$HORIZ@T&_B+
c_+ROWHEA^:_A_RECT=GL;BOXaOV,LAPP:G_WHIT;SQU+ESs=^BLACK>QU+ESmBLACK>QU+ESaB&LOT_BOX$L._XaCIRC|^X
iBOL^XaBLACK>QU+;C~TREDgDIAM@^C~TREDaTURNE^BLACK_P~TAG@aHORIZ@T&_BLACK_OCTAG@aBLACK_OCTAG@
gMEDIUM_UP-PO:T:G_TRI=GL;C~TREDnDOWN-PO:T:G_TRI=GL;C~TREDn|FT-PO:T:G_TRI=GL;C~TRED
nR.-PO:T:G_TRI=GL;C~TREDaNEPTUN;FORM_TWOaTOP_H&F_BLACK_CIRC|aBOTTOM_H&F_BLACK_CIRC|
aL._FOUR_PO:TE^BLACK_CUSPaROTATE^L._FOUR_PO:TE^BLACK_CUSPaWHIT;FOUR_PO:TE^CUSP
aROTATE^WHIT;FOUR_PO:TE^CUSPaSQU+;POSITI@_:DICATORaUNC,TA:TY>IGNaGROUP_M+KaPLUTO<_TWOmHREElFOURmIVE
aTR=SPLUTOaPROS,P:AaASTRAEAaHYGIEAaPHOLUSaNESSUSaWHIT;MO@>E|NAaBLACK_DIAM@^@_CROSSaTRU;L._MO@_+TA
aCUPIDOaHADESaZEUSaKR@OSaAPOLL@bDMETOSaVULC=USaPOSEID@a|FT_H&F_BLACK>T+aR._H&F_BLACK>T+
aST+$|FT_H&F_BLACKkR._H&F_BLACKa|FTW+DS_TWO-HEADE^+ROW$TRI=GL;+ROWHEADS
aUPW+DS_TWO-HEADE^+ROW$TRI=GL;+ROWHEADSaR.W+DS_TWO-HEADE^+ROW$TRI=GL;+ROWHEADS
aDOWNW+DS_TWO-HEADE^+ROW$TRI=GL;+ROWHEADSa,IS<_@EkTWOaSEDNAaRUSSI=_ASTROLOGIC&>YMBOL_VIG:TI|
yBOL_NOVI|yBOL_QU:TI|yBOL_B:OVI|yBOL>~TAG@yBOL_TREDECI|aEQU&S>IGN$:F:ITY_BELOWaUNITED>YMBOL
aSEP+ATED>YMBOLaDOUB|D>YMBOLaPASSED>YMBOLaREV,SE^R._=G|aHELLSCHREIB,_PAUS;SYMBOLaGLAGOLITIC_%!AZU
yR_BUKYyR_VEDEyR_GLAGOLIyR_DOBROyR_YESTUyR_ZHIVETEyR_DZELOyR_ZEMLJAyR_IZHEyR_:ITI&_IZHEyR_IyR_DJ,VI
yR_KAKOyR_LJUDIJEyR_MYSLITEyR_NASHIyR_@UyR_POKOJIyR_RITSIyR>LOVOyR_TVRIDOyR_UKUyR_FRITUyR_H,UyR_OTU
yR_PEyR>HTAyR_TSIyR_CHRIVIyR>HAyR_Y,UyR_Y,IyR_YATIyR>PID,Y_HAyR_YUyR>M&L_YUSyR>M&L_YUS$TAILyR_YO
yR_IOTATED>M&L_YUSyR_BIG_YUSyR_IOTATE^BIG_YUSyR_FITAyR_IZHITSAyR>HTAPICyR_TROKUTASTI_A
yR_LAT:AT;MYSLITEyR_CAUDAT;CHRIVIlSM&!AZUyBUKYyVEDEyGLAGOLIyDOBROyYESTUyZHIVETEyDZELOyZEMLJAyIZHE
y:ITI&_IZHEyIyDJ,VIyKAKOyLJUDIJEyMYSLITEyNASHIy@UyPOKOJIyRITSIySLOVOyTVRIDOyUKUyFRITUyH,UyOTUyPE
ySHTAyTSIyCHRIVIySHAyY,UyY,IyYATIySPID,Y_HAyYUySM&L_YUSySM&L_YUS$TAILyYOyIOTATED>M&L_YUSyBIG_YUS
yIOTATE^BIG_YUSyFITAyIZHITSAySHTAPICyTROKUTASTI_AyLAT:AT;MYSLITEyCAUDAT;CHRIVIaLAT:_%!L$DOUBL;B+
gSM&!L$DOUBL;B+g%!L$MIDDL;TILDEvP$STROKEvR$TAILgSM&!A$STROKEtT$DIAG@&>TROKEg%!H$DESC~D,
gSM&!H$DESC~D,g%!K$DESC~D,gSM&!K$DESC~D,g%!Z$DESC~D,gSM&!Z$DESC~D,g%!&PHAvM$HOOKvTURNE^AyNE^&PHA
gSM&!V$R._HOOKg%!W$HOOKgSM&!W$HOOKtV$CURLg%!H&F_HgSM&!H&F_HtTAIL|SS_PHItE$NOTCHtTURNE^R$TAIL
tO$LOW_R:G_:SIDEg|TT,>M&L_%L_TURNE^EgSUBSCRIPT>M&!JaMODIFI,_|TT,_%L_VaLAT:_%!S$SWASH_TAIL
vZ$SWASH_TAILaCOPTIC_%!&FAhSM&!&FAh%!VIDAhSM&!VIDAh%!GAMMAhSM&!GAMMAh%!D&DAhSM&!D&DAh%!EIEhSM&!EIE
h%!SOUhSM&!SOUh%!ZATAhSM&!ZATAh%!HATEhSM&!HATEh%!THETHEhSM&!THETHEh%!IAUDAhSM&!IAUDAh%!KAPAhSM&!KAPA
h%!LAULAhSM&!LAULAh%!MIhSM&!MIh%!NIhSM&!NIh%!KSIhSM&!KSIh%!OhSM&!Oh%!PIhSM&!PIh%!ROhSM&!ROh%!SIMA
hSM&!SIMAh%!TAUhSM&!TAUh%!UAhSM&!UAh%!FIhSM&!FIh%!KHIhSM&!KHIh%!PSIhSM&!PSIh%!OOUhSM&!OOU
h%!DI&ECT-P_&EFhSM&!DI&ECT-P_&EFh%!OL^COPTIC_A:hSM&!OL^COPTIC_A:h%!CRYPTOGRAMMIC_EIE
hSM&!CRYPTOGRAMMIC_EIEh%!DI&ECT-P_KAPAhSM&!DI&ECT-P_KAPAh%!DI&ECT-P_NIhSM&!DI&ECT-P_NI
h%!CRYPTOGRAMMIC_NIhSM&!CRYPTOGRAMMIC_NIh%!OL^COPTIC_OOUhSM&!OL^COPTIC_OOUh%!SAMPIhSM&!SAMPI
h%!CROSSED>HEIhSM&!CROSSED>HEIh%!OL^COPTIC>HEIhSM&!OL^COPTIC>HEIh%!OL^COPTIC_ESHhSM&!OL^COPTIC_ESH
h%!AKHMIMIC_KHEIhSM&!AKHMIMIC_KHEIh%!DI&ECT-P_HORIhSM&!DI&ECT-P_HORIh%!OL^COPTIC_HORI
hSM&!OL^COPTIC_HORIh%!OL^COPTIC_HAhSM&!OL^COPTIC_HAh%!L-SHAPE^HAhSM&!L-SHAPE^HAh%!OL^COPTIC_HEI
hSM&!OL^COPTIC_HEIh%!OL^COPTIC_HAThSM&!OL^COPTIC_HATh%!OL^COPTIC_G=GIAhSM&!OL^COPTIC_G=GIA
h%!OL^COPTIC_DJAhSM&!OL^COPTIC_DJAh%!OL^COPTIC>HIMAhSM&!OL^COPTIC>HIMAh%!OL^NUBI=>HIMA
hSM&!OL^NUBI=>HIMAh%!OL^NUBI=_NGIhSM&!OL^NUBI=_NGIh%!OL^NUBI=_NYIhSM&!OL^NUBI=_NYIh%!OL^NUBI=_WAU
hSM&!OL^NUBI=_WAUiYMBOL_KAIoMI_ROoPI_ROoSTAUROSoTAU_ROoKHI_ROoSHIMA>IMAh%!CRYPTOGRAMMIC>HEI
hSM&!CRYPTOGRAMMIC>HEIh%!CRYPTOGRAMMIC_G=GIAhSM&!CRYPTOGRAMMIC_G=GIAhCOMB::G_NI_ABOVErSPIRITUS_ASP,
yS_|NISiAPITA!BOHAIRIC_KHEIhSM&!BOHAIRIC_KHEIz2CF9hOL^NUBI=_FULL>TOPsDIRECT_QUESTI@_M+K
s:DIRECT_QUESTI@_M+KsV,S;DIVID,hFRACTI@_@;H&FiULL>TOPhMORPHOLOGIC&_DIVID,aGEORGI=>M&!=wB=wG=wD@w~wV:
wZ~wT=w:wK=wLASwM=wN+w@wP+wZH+wRAEwS=wT+wUNwPH+wKH+wGH=wQ+wSH:wCH:x=wJILwCILxH+wX=wJH=wHAExExIEwWE
wH+xOEz2D27wYNz2D2DwA~z2D30aTIF:AGH_|TT,_YAsBtHsGtHHqB,B,_ACADEMY_YAJqYAJsDtHtDuHrEYrAFsKqTU+EG_YAK
qYAKHHsHqB,B,_ACADEMY_YAHqTU+EG_YAHqYAHHsAsKHqTU+EG_YAKHqYAQqTU+EG_YAQqYIrAZHqAHAGG+_YAZHqTU+EG_YAZH
qY&sMsNqTU+EG_YAGNy=GqYAPrUr+tRsGHqTU+EG_YAGHqAY,_YAGHqYAStStHsTtHsCHsTTsVsWsYsZqTAWEL|MET_YAZqYAZZ
rErOz2D6FjMODIFI,_|TT,_LABI&IZATI@_M+KjSEP+ATOR_M+Kz2D7FjC@S@=T_JO:,aETHIOPIC>YLLABL;LOAsMOAsROAsSOA
tHOAsBOAsTOAsCOAsNOAtYOAsGLOTT&_OAsZOAsDOAtDOAsJOAsTHOAsCHOAsPHOAtOAsGGWAvIvEEwz2DA0sSSAuUuIuAAuEEv
uOz2DA8sCCAuUuIuAAuEEvuOz2DB0sZZAuUuIuAAuEEvuOz2DB8sCCHAvUvIvAAvEEwvOz2DC0sQYAuUuIuAAuEEvuOz2DC8sKYA
uUuIuAAuEEvuOz2DD0sXYAuUuIuAAuEEvuOz2DD8sGYAuUuIuAAuEEvuOz2DE0aCOMB::G_CYRILLIC_|TT,_BEyR_VEyR_GHE
yR_DEyR_ZHEyR_ZEyR_KAyR_ELyR_EMyR_~yR_OyR_PEyR_,yR_ESyR_TEyR_HAyR_TSEyR_CHEyR>HAyR>HCHAyR_FITA
yR_ES-TEyR_AyR_IEyR_DJ,VyR_M@OGRAPH_UKyR_YATyR_YUyR_IOTIFIE^AyR_LITTL;YUSyR_BIG_YUS
yR_IOTIFIE^BIG_YUSaR._=GL;SUBSTITUTI@_M+K,mDOTTED>UBSTITUTI@_M+K,a|FT>UBSTITUTI@_BRACKET
aR.>UBSTITUTI@_BRACKETa|FT_DOTTED>UBSTITUTI@_BRACKETaR._DOTTED>UBSTITUTI@_BRACKET
bAISE^:T,POLATI@_M+K,hDOTTE^:T,POLATI@_M+K,aDOTTE^TR=SPOSITI@_M+K,a|FT_TR=SPOSITI@_BRACKET
aR._TR=SPOSITI@_BRACKETbAISED>QU+Ea|FT_RAISE^OMISSI@_BRACKETaR._RAISE^OMISSI@_BRACKET
aEDITORI&_COR@ISaP+AGRAPHOSaFORKE^P+AGRAPHOSaREV,SE^FORKE^P+AGRAPHOSaHYPODIASTO|aDOTTE^OBELOS
cWNW+DS_=CORAaUPW+DS_=CORAaDOTTE^R.-PO:T:G_=G|cUBL;OBLIQU;HYPH~a:V,TE^:T,ROB=GaP&M_BR=CH
aHYPH~$DIA,ESISaTILDE$R:G_ABOVEa|FT_LOW_P+APHRAS;BRACKETaR._LOW_P+APHRAS;BRACKETaTILDE$DOT_ABOVE
pBELOWa|FT_V,TIC&_B+$QUILLaR._V,TIC&_B+$QUILLaTOP_|FT_H&F_BRACKETeR._H&F_BRACKET
aBOTTOM_|FT_H&F_BRACKEThR._H&F_BRACKETa|FT>IDEWAYS_U_BRACKETaR.>IDEWAYS_U_BRACKET
a|FT_DOUBL;P+~THESISaR._DOUBL;P+~THESISaTWO_DOTS_OV,_@;DOT_PUNCTUATI@a@;DOT_OV,_TWO_DOTS_PUNCTUATI@
aSQU+E^FOUR_DOT_PUNCTUATI@aFIV;DOT_M+KaREV,SE^QUESTI@_M+KaV,TIC&_TILDEaR:G_PO:T
aWORD>EP+ATOR_MIDDL;DOTaTURNE^COMMAaRAISE^DOThCOMMAaTURNED>EMICOL@aDAGG,$|FT_GU+DmR._GU+D
aTURNE^DAGG,bOP_H&F>ECTI@>IGNbWO-EM_DASHbHREE-EM_DASHaST~OGRAPHIC_FULL>TOPaV,TIC&>IX_DOTS
aWIGGLY_V,TIC&_L:EaCAPITULUMaDOUBL;HYPH~aREV,SE^COMMAaDOUBL;LOW-REV,SED-9_QUOTATI@_M+K
bASH$|FT_UPTURNbOUBL;SUSP~SI@_M+Ka:V,TE^LOW_KAVYKAt$KAVYKA_ABOVEaLOW_KAVYKAk$DOTaDOUBL;STACKE^COMMA
cTTED>OLIDUSaTRIPL;DAGG,aMEDIEV&_COMMAaP+AGRAPHUS_M+KbUNCTUS_E|VATUS_M+KaCORNISH_V,S;DIVID,
bROSS_PATTY$R._CROSSB+r|FT_CROSSB+aTIR@I=>IGN_%L_ETaMEDIEV&_EXCLAMATI@_M+KjQUESTI@_M+K
a|FT>QU+;BRACKET$STROKEaR.>QU+;BRACKET$STROKEa|FT>QU+;BRACKET$DOUBL;STROKE
aR.>QU+;BRACKET$DOUBL;STROKEaTOP_H&F_|FT_P+~THESISjR._P+~THESISaBOTTOM_H&F_|FT_P+~THESIS
mR._P+~THESISaOBLIQU;HYPH~z2E80aCJK_RADIC&_REPEATmCLIFFmSEC@^@EtTWOuHREEmP,S@mBOXmTAB|mKNIF;@EsTWO
mDIV:ATI@mSE&nM&L_@EsTWOmLAM;@ErTWOsHREErFOURmSNAKEmTHREADmSNOUT_@EsTWOmHE+T_@EsTWOn=DmRAP
z2E9BmCHOKEmSUNmMO@mDEATHmMOTH,mCIVILI=mWAT,_@EsTWOmFIREmPAW_@EqTWOmSIMPLIFIE^H&F_TRE;TRUNKmCOWmDOG
mJADEmBOLT_OF_CLOTHmEYEmSPIRIT_@EtTWOmBAMBOOmSILKmC-SIMPLIFIED>ILKmNET_@EqTWOrHREEqFOURmMESHmSHEEP
mRAMmEWEmOLDmBRUSH_@EsTWOmMEATnORT+mGRASS_@EsTWOtHREEmTIG,mCLOTHESmWEST_@ErTWOmC-SIMPLIFIED>EE
mSIMPLIFIE^HORNmHORNmC-SIMPLIFIED>PEECHy>HELLmFOOTmC-SIMPLIFIE^C+TmSIMPLIFIE^W&KmW&K_@ErTWOmCITY
n-SIMPLIFIE^GOLDmL@G_@ErTWOmC-SIMPLIFIE^L@Gy_GATEmMOUN^@EsTWOmRA:mBLUEmC-SIMPLIFIE^T=NE^|ATH,y_|AF
y_W:Dy_FLYmEAT_@EqTWOrHREEmC-SIMPLIFIE^EATmHEADmC-SIMPLIFIE^HORSEmB@EmGHOSTmC-SIMPLIFIE^FISHy_BIRD
y>&TmSIMPLIFIE^WHEATxYELLOWmC-SIMPLIFIE^FROGmJ-SIMPLIFIE^EV~mC-SIMPLIFIE^EV~mJ-SIMPLIFIE^TOOTH
mC-SIMPLIFIE^TOOTHmJ-SIMPLIFIE^DRAG@mC-SIMPLIFIE^DRAG@mTURT|mJ-SIMPLIFIE^TURT|mC-SIMPLIFIE^TURT|
z2F00aK=GXI_RADIC&_@EpL:EpDOTpSLASHqEC@DpHOOKpTWOpLIDpM=p|GSp~T,q.pDOWN_BOXpCOV,pICEpTAB|pOP~_BOX
pKNIFEpPOW,pWRAPpSPO@pR._OP~_BOXpHID:G_~CLOSUREpT~pDIV:ATI@pSE&pCLIFFpPRIVATEpAGA:pMOUTHp~CLOSURE
q+THpSCHOL+pGOr>LOWLYpEV~:GpBIGpWOM=pCHILDpROOFp:CHpSM&LpLAMEpCORPSEpSPROUTpMOUNTA:pRIV,pWORKp@ESELF
pTURB=pDRYpSHORT_THREADpDOTTE^CLIFFpL@G>TRIDEpTWO_H=DSpSHOOTpBOWpSNOUTpBRIST|pSTEPpHE+Tq&B,DpDOOR
pH=DpBR=CHpRAPpSCRIPTpDIPP,pAXEpSQU+EpNOTpSUNqAYpMO@pTREEpLACKpSTOPpDEATHpWEAP@pDO_NOTpCOMP+EpFUR
pCL=pSTEAMpWAT,pFIREpCLAWpFATH,pDOUBL;XpH&F_TRE;TRUNKpSLICEpF=GpCOWpDOGpPROFOUNDpJADEpMEL@pTI|pSWEET
pLIFEpUSEpFIELDpBOLT_OF_CLOTHpSICKNESSpDOTTE^T~TpWHITEpSK:pDISHpEYEpSPE+p+ROWpST@EqPIRITpTRACKpGRA:
pCAVEpST=DpBAMBOOpRICEpSILKpJ+pNETpSHEEPpFEATH,pOLDp=DpPLOWpE+pBRUSHpMEATq:IST,pSELFp+RIVEpMORT+
pT@GUEpOPPOSEpBOATpSTOPP:GpCOLORpGRASSpTIG,p:SECTpBLOODpW&K_~CLOSUREpCLOTHESpWESTpSEEpHORNpSPEECH
pV&|YpBE=pPIGpBADG,pSHELLpREDqUNpFOOTpBODYpC+TpBITT,pMORN:GpW&KpCITYpW:EpDIST:GUISHpVILLAGEpGOLDpL@G
pGATEpMOUNDpSLAVEqHORT_TAI|^BIRDpRA:pBLUEpWR@GpFACEp|ATH,pT=NE^|ATH,p|EKpSOUNDp|AFpW:DpFLYpEATpHEAD
pFRAGR=TpHORSEpB@EpT&LpHAIRpF.pSACRIFICI&_W:EpCAULDR@pGHOSTpFISHpBIRDpS&TpDE,pWHEATpHEMPpYELLOW
pMIL|TpBLACKpEMBROID,YpFROGpTRIPODpDRUMpRATpNOSEpEV~pTOOTHpDRAG@pTURT|pFLUTE
z2FF0aIDEOGRAPHIC_DESCRIPTI@_CH+ACT,_|FT_TO_R.yCH+ACT,_ABOV;TO_BELOWyCH+ACT,_|FT_TO_MIDDL;=^R.
yCH+ACT,_ABOV;TO_MIDDL;=^BELOWyCH+ACT,_FULL>URROUNDyCH+ACT,>URROUN^FROM_ABOVE
yCH+ACT,>URROUN^FROM_BELOWyCH+ACT,>URROUN^FROM_|FTyCH+ACT,>URROUN^FROM_UPP,_|FT
yCH+ACT,>URROUN^FROM_UPP,_R.yCH+ACT,>URROUN^FROM_LOW,_|FTyCH+ACT,_OV,LAID"

end Conform
